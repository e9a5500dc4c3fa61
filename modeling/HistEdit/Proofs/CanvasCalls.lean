import HistEdit.Proofs.CheckedValues
import HistEdit.Proofs.Directives
import HistEdit.Proofs.Registration

/-!
Calls of functions on canvases. The values of a call are checked when it is made, and only then; so
whatever calls come together, the canvas that they leave is in order. Each setting is as the last
call that sets it says.
-/

namespace HistEdit

def Canvas.called (canvas : Canvas) (calls : List (Call CanvasAction)) : Canvas :=
  calls.foldl (fun canvas call => call.action.apply canvas) canvas

def Margins.Inside (margins : Margins) : Prop :=
  ∀ margin ∈ [margins.left, margins.right, margins.bottom, margins.top],
    0.0 ≤ margin ∧ margin < 1.0

/-- A canvas in order: its margins lie in their interval, and the third axis has neither ticks nor a
grid. -/
structure Canvas.Valid (canvas : Canvas) : Prop where
  margins : canvas.margins.Inside
  ticks : canvas.ticks.z = false
  grid : canvas.grid.z = false

def Axis.letters : Axis → List Char
  | .x => ['x', 'X']
  | .y => ['y', 'Y']
  | .z => ['z', 'Z']

def Axis.isNamedIn (axis : Axis) (args : String) : Bool :=
  (Argument.tokens ',' args).head?.any fun letters => letters.toList.any axis.letters.contains

namespace Setting

/-- What a setting is on the default canvas. -/
def initial : (setting : Setting) → setting.Value
  | .margins => (⟨0.1, 0.1, 0.1, 0.1⟩ : Margins)
  | .log _ | .ticks _ | .grid _ => false

def isSetBy (setting : Setting) (call : Call CanvasAction) : Bool :=
  match setting with
  | .margins => call.name == "margin"
  | .log axis => call.name == "log" && axis.isNamedIn call.args
  | .ticks axis => call.name == "ticks" && axis.isNamedIn call.args
  | .grid axis => call.name == "grid" && axis.isNamedIn call.args

/-- The value that the argument text of a call gives to a setting. Margins stand at their places,
and where one is missing or empty it is the default; the second argument of a switch says whether it
is on, which it is when it says nothing. -/
def Gives (args : String) : (setting : Setting) → setting.Value → Prop
  | .margins, (value : Margins) =>
    ArgType.double.receive 0.1 (Argument.tokens ',' args)[0]? = .ok value.left ∧
    ArgType.double.receive 0.1 (Argument.tokens ',' args)[1]? = .ok value.right ∧
    ArgType.double.receive 0.1 (Argument.tokens ',' args)[2]? = .ok value.bottom ∧
    ArgType.double.receive 0.1 (Argument.tokens ',' args)[3]? = .ok value.top
  | .log _, on | .ticks _, on | .grid _, on =>
    ArgType.bool.receive true (Argument.tokens ',' args)[1]? = .ok on

end Setting

namespace CanvasFunction

variable {args : String} {action : CanvasAction}

theorem toLower_eq_iff {letter lower upper : Char} (hlower : lower.val = upper.val + 32)
    (hupper : 65 ≤ upper.val ∧ upper.val ≤ 90) :
    letter.toLower = lower ↔ letter = lower ∨ letter = upper := by
  have hfirst : 'A'.val = 65 := rfl
  have hlast : 'Z'.val = 90 := rfl
  have hshift : 'a'.val = 97 := rfl
  simp only [Char.ext_iff, Char.toLower, hlower]
  split <;> grind

theorem axis?_eq_some_iff {letter : Char} {axis : Axis} :
    axis? letter = some axis ↔ letter ∈ axis.letters := by
  have hx : letter.toLower = 'x' ↔ letter = 'x' ∨ letter = 'X' := toLower_eq_iff rfl (by decide)
  have hy : letter.toLower = 'y' ↔ letter = 'y' ∨ letter = 'Y' := toLower_eq_iff rfl (by decide)
  have hz : letter.toLower = 'z' ↔ letter = 'z' ∨ letter = 'Z' := toLower_eq_iff rfl (by decide)
  rw [axis?]
  cases axis <;>
    simp only [Axis.letters, List.mem_cons, List.not_mem_nil, or_false, ← hx, ← hy, ← hz] <;>
    grind

/-- The axes of a text are those whose letters it holds, and all of them are allowed. -/
theorem axes_eq_ok {function : String} {allowed found : List Axis} {letters : List Char}
    (h : axes function allowed letters = .ok found) :
    (∀ axis ∈ found, axis ∈ allowed) ∧
      ∀ axis, axis ∈ found ↔ letters.any axis.letters.contains = true := by
  induction letters generalizing found with
  | nil =>
      obtain rfl : [] = found := Except.ok.inj h
      simp
  | cons letter letters ih =>
      rw [axes, List.mapM_cons] at h
      obtain ⟨first, hfirst, hrest⟩ := except_bind_eq_ok_iff.1 h
      obtain ⟨rest, hmap, hfound⟩ := except_bind_eq_ok_iff.1 hrest
      obtain rfl : first :: rest = found := Except.ok.inj hfound
      obtain ⟨hallowed, hnamed⟩ := ih hmap
      obtain ⟨haxis, hfirst⟩ : axis? letter = some first ∧ first ∈ allowed := by
        split at hfirst
        · next axis haxis =>
            split at hfirst
            · next hmem =>
                obtain rfl := Except.ok.inj hfirst
                exact ⟨haxis, hmem⟩
            · cases hfirst
        · cases hfirst
      refine ⟨List.forall_mem_cons.2 ⟨hfirst, hallowed⟩, fun axis => ?_⟩
      have hletter : axis.letters.contains letter = true ↔ axis = first := by
        rw [List.contains_iff_mem, ← axis?_eq_some_iff, haxis, Option.some.injEq, eq_comm]
      rw [List.mem_cons, hnamed axis, List.any_cons, Bool.or_eq_true, hletter]

theorem isNamedIn_of_head {letters : String} (axis : Axis)
    (h : (Argument.tokens ',' args).head? = some letters) :
    axis.isNamedIn args = letters.toList.any axis.letters.contains := by
  rw [Axis.isNamedIn, h, Option.any_some]

/-- A switch acts on the axes that its first argument names, all of them allowed, and its second
argument says what it turns them to. -/
theorem switch_eq_ok {function : String} {allowed : List Axis}
    {act : List Axis → Bool → CanvasAction}
    (h : switch function allowed act ⟨args, ','⟩ = .ok action) :
    ∃ found on, action = act found on ∧ (∀ axis ∈ found, axis ∈ allowed) ∧
      (∀ axis, axis ∈ found ↔ axis.isNamedIn args = true) ∧
      ArgType.bool.receive true (Argument.tokens ',' args)[1]? = .ok on := by
  obtain ⟨⟨letters, on, ⟨⟩⟩, hbind, haction⟩ := except_bind_eq_ok_iff.1 h
  obtain ⟨found, haxes, haction⟩ := except_bind_eq_ok_iff.1 haction
  obtain ⟨hfits, hreceives⟩ := Row.bindWith_eq_ok_iff.1 hbind
  obtain ⟨hletters, hrest⟩ := Row.receives_cons.1 hreceives
  have hon := (Row.receives_cons.1 hrest).1
  rw [List.head?_eq_getElem?, List.getElem?_tail] at hon
  obtain ⟨hallowed, hnamed⟩ := axes_eq_ok haxes
  -- the axes are required, so their token is there and is not empty
  have hhead : (Argument.tokens ',' args).head? = some letters := by
    have henough : 1 ≤ (Argument.tokens ',' args).length := hfits.enough
    have hgiven : (Argument.tokens ',' args)[0]? ≠ some "" := hfits.given 0 Nat.one_pos
    change ArgType.text.receive "" (Argument.tokens ',' args).head? = .ok letters at hletters
    rw [List.head?_eq_getElem?] at hletters ⊢
    rw [List.getElem?_eq_getElem henough] at hgiven hletters ⊢
    rw [ArgType.receive, if_neg fun hempty => hgiven (congrArg some hempty)] at hletters
    exact congrArg some (Except.ok.inj hletters)
  refine ⟨found, on, (Except.ok.inj haction).symm, hallowed, fun axis => ?_, hon⟩
  rw [isNamedIn_of_head axis hhead, hnamed axis]

theorem margin_eq_ok (h : margin ⟨args, ','⟩ = .ok action) :
    ∃ margins : Margins, action = .margins margins ∧ margins.Inside ∧
      Setting.Gives args .margins margins := by
  obtain ⟨margins, rfl, hinside⟩ := inside_of_margin h
  refine ⟨margins, rfl, fun margin hmem => ?_, ?_⟩
  · obtain ⟨hleast, hmost, -⟩ := hinside margin hmem
    exact ⟨hleast, hmost⟩
  · -- the values that were bound are those that passed the check
    rw [margin] at h
    dsimp only at h
    obtain ⟨⟨left, right, bottom, top, ⟨⟩⟩, hbind, hchecked⟩ := except_bind_eq_ok_iff.1 h
    obtain rfl : ⟨left, right, bottom, top⟩ = margins := by
      dsimp only at hchecked
      split at hchecked
      · cases hchecked
      · exact CanvasAction.margins.inj (Except.ok.inj hchecked)
    obtain ⟨hleft, hrest⟩ := Row.receives_cons.1 (Row.bindWith_eq_ok_iff.1 hbind).2
    obtain ⟨hright, hrest⟩ := Row.receives_cons.1 hrest
    obtain ⟨hbottom, hrest⟩ := Row.receives_cons.1 hrest
    have htop := (Row.receives_cons.1 hrest).1
    simp only [List.head?_eq_getElem?, List.getElem?_tail] at hleft hright hbottom htop
    exact ⟨hleft, hright, hbottom, htop⟩

end CanvasFunction

/-- Switches for the first two axes leave the one of the third. -/
theorem AxisSwitches.z_setAll (switches : AxisSwitches) {axes : List Axis} (on : Bool)
    (h : ∀ axis ∈ axes, axis ∈ [.x, .y]) : (switches.setAll axes on).z = switches.z := by
  have hz : Axis.z ∉ axes := fun hmem => absurd (h .z hmem) (by decide)
  have hget := switches.get_setAll axes on .z
  rw [switchedTo?, if_neg hz] at hget
  exact hget

/-- What a call sets a setting to, as its name and its text say. -/
def Setting.SpelledBy (setting : Setting) (call : Call CanvasAction) :
    Option setting.Value → Prop
  | none => setting.isSetBy call = false
  | some value => setting.isSetBy call = true ∧ setting.Gives call.args value

/-- A call whose settings are those that its name and its text say, and which keeps a canvas in
order. -/
structure Call.Checked (call : Call CanvasAction) : Prop where
  spelled : ∀ setting : Setting, setting.SpelledBy call (call.action.value? setting)
  keeps : ∀ canvas : Canvas, canvas.Valid → (call.action.apply canvas).Valid

namespace CanvasFunction

/-- A switch that is named is turned to what the second argument says, and no other one. -/
theorem switchedTo?_cases {motive : Option Bool → Prop} {args : String} {found : List Axis}
    {on : Bool} (hnamed : ∀ axis, axis ∈ found ↔ axis.isNamedIn args = true) (axis : Axis)
    (hset : axis.isNamedIn args = true → motive (some on))
    (hleft : axis.isNamedIn args = false → motive none) : motive (switchedTo? found on axis) := by
  rw [switchedTo?]
  by_cases hmem : axis ∈ found
  · rw [if_pos hmem]
    exact hset ((hnamed axis).1 hmem)
  · rw [if_neg hmem]
    exact hleft (eq_false_of_ne_true (mt (hnamed axis).2 hmem))

/-- The functions on canvases make checked calls. -/
theorem checked_of_factory :
    ∀ entry ∈ entries, ∀ args action, entry.factory ⟨args, ','⟩ = .ok action →
      Call.Checked ⟨entry.name, args, action⟩ := by
  simp only [entries, List.forall_mem_cons]
  refine ⟨?log, ?margin, ?ticks, ?grid, fun _ hmem => nomatch hmem⟩ <;> intro args action haction
  case log =>
    obtain ⟨found, on, rfl, -, hnamed, hon⟩ := switch_eq_ok haction
    refine ⟨fun setting => ?_, fun canvas hvalid => ⟨hvalid.margins, hvalid.ticks, hvalid.grid⟩⟩
    cases setting with
    | log axis =>
        exact switchedTo?_cases (motive := (Setting.log axis).SpelledBy ⟨"log", args, _⟩)
          hnamed axis (fun hset => ⟨hset, hon⟩) fun hleft => hleft
    | _ => rfl
  case margin =>
    obtain ⟨margins, rfl, hinside, hgives⟩ := margin_eq_ok haction
    refine ⟨fun setting => ?_, fun canvas hvalid => ⟨hinside, hvalid.ticks, hvalid.grid⟩⟩
    cases setting with
    | margins => exact ⟨rfl, hgives⟩
    | _ => rfl
  case ticks =>
    obtain ⟨found, on, rfl, hallowed, hnamed, hon⟩ := switch_eq_ok haction
    refine ⟨fun setting => ?_, fun canvas hvalid =>
      ⟨hvalid.margins, (canvas.ticks.z_setAll on hallowed).trans hvalid.ticks, hvalid.grid⟩⟩
    cases setting with
    | ticks axis =>
        exact switchedTo?_cases (motive := (Setting.ticks axis).SpelledBy ⟨"ticks", args, _⟩)
          hnamed axis (fun hset => ⟨hset, hon⟩) fun hleft => hleft
    | _ => rfl
  case grid =>
    obtain ⟨found, on, rfl, hallowed, hnamed, hon⟩ := switch_eq_ok haction
    refine ⟨fun setting => ?_, fun canvas hvalid =>
      ⟨hvalid.margins, hvalid.ticks, (canvas.grid.z_setAll on hallowed).trans hvalid.grid⟩⟩
    cases setting with
    | grid axis =>
        exact switchedTo?_cases (motive := (Setting.grid axis).SpelledBy ⟨"grid", args, _⟩)
          hnamed axis (fun hset => ⟨hset, hon⟩) fun hleft => hleft
    | _ => rfl

end CanvasFunction

namespace Call

variable {call : Call CanvasAction}

theorem checked_of_makes (h : Functions.builtin.canvas.Makes call) : call.Checked := by
  obtain ⟨entry, hentry, hname, haction⟩ := h.exists_entry
  have hchecked := CanvasFunction.checked_of_factory entry hentry call.args call.action haction
  rwa [hname] at hchecked

theorem Checked.isSome_value? (h : call.Checked) (setting : Setting) :
    (call.action.value? setting).isSome = setting.isSetBy call := by
  have hspelled := h.spelled setting
  cases hvalue : call.action.value? setting with
  | none =>
      rw [hvalue] at hspelled
      exact hspelled.symm
  | some value =>
      rw [hvalue] at hspelled
      exact hspelled.1.symm

theorem Checked.gives (h : call.Checked) {setting : Setting} {value : setting.Value}
    (hvalue : call.action.value? setting = some value) : setting.Gives call.args value := by
  have hspelled := h.spelled setting
  rw [hvalue] at hspelled
  exact hspelled.2

end Call

namespace Canvas

/-- A canvas that calls have set up, starting from the default one. They were made before they took
effect; the canvas is in order; and each setting is as the last call that sets it says, or as on the
default canvas. -/
structure SetUpBy (calls : List (Call CanvasAction)) (canvas : Canvas) : Prop where
  made : ∀ call ∈ calls, Functions.builtin.canvas.Makes call
  result : canvas = ({} : Canvas).called calls
  valid : canvas.Valid
  settings : ∀ setting : Setting,
    match (calls.filter setting.isSetBy).getLast? with
    | none => canvas.get setting = setting.initial
    | some call => setting.Gives call.args (canvas.get setting)

theorem valid_default : Valid {} := by
  refine ⟨?_, rfl, rfl⟩
  have hinside : (0.0 : Float) ≤ 0.1 ∧ (0.1 : Float) < 1.0 := by decide +kernel
  intro margin hmem
  obtain rfl : margin = 0.1 := by simpa using hmem
  exact hinside

theorem get_default (setting : Setting) : ({} : Canvas).get setting = setting.initial := by
  cases setting with
  | margins => rfl
  | _ axis => cases axis <;> rfl

/-- Calls keep a canvas in order, one after the other. -/
theorem Valid.called {calls : List (Call CanvasAction)} (hcalls : ∀ call ∈ calls, call.Checked)
    {canvas : Canvas} (h : canvas.Valid) : (canvas.called calls).Valid := by
  induction calls generalizing canvas with
  | nil => exact h
  | cons call calls ih =>
      obtain ⟨hcall, hrest⟩ := List.forall_mem_cons.1 hcalls
      exact ih hrest (hcall.keeps canvas h)

theorem setUpBy_called {calls : List (Call CanvasAction)}
    (hmade : ∀ call ∈ calls, Functions.builtin.canvas.Makes call) :
    (({} : Canvas).called calls).SetUpBy calls := by
  have hcalls : ∀ call ∈ calls, call.Checked :=
    fun call hmem => Call.checked_of_makes (hmade call hmem)
  refine ⟨hmade, rfl, valid_default.called hcalls, fun setting => ?_⟩
  have hoverwrites : Overwrites (fun canvas (call : Call CanvasAction) => call.action.apply canvas)
      (fun canvas => canvas.get setting) (fun call => call.action.value? setting) :=
    fun canvas call => CanvasAction.overwrites setting canvas call.action
  have hlast := hoverwrites.foldl_last
    (fun call hmem => (hcalls call hmem).isSome_value? setting) {}
  cases hfound : (calls.filter setting.isSetBy).getLast? with
  | none =>
      rw [hfound] at hlast
      exact hlast.trans (get_default setting)
  | some call =>
      rw [hfound] at hlast
      obtain ⟨value, hvalue, hget⟩ := hlast
      have hmem : call ∈ calls := (List.mem_filter.1 (List.mem_of_getLast? hfound)).1
      change setting.Gives call.args ((({} : Canvas).called calls).get setting)
      rw [show (({} : Canvas).called calls).get setting = value from hget]
      exact (hcalls call hmem).gives hvalue

end Canvas

end HistEdit
