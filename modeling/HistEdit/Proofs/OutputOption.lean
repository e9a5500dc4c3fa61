import HistEdit.CommandLine
import HistEdit.Proofs.Result
import Mathlib.Data.List.Infix

/-!
The option for an output file on a command line. Put behind the name of a command that does not have
it yet, the option changes nothing about how the other arguments are taken: the same request is
read, with the path of the file in addition.
-/

namespace HistEdit

/-- The ways to ask for an output file. A path that looks like an option itself has to be joined to
the name of the option. -/
def outputOptions (path : String) : List (List String) :=
  ["-o=" ++ path] :: if Argument.form path = .plain then [["-o", path]] else []

namespace Given

def withOutput (given : Given) (path : String) : Given :=
  { given with settled := (.output, path) :: given.settled }

/-- A way to take arguments that only adds to those that are settled, and to which an output file
in front makes no difference unless it takes one itself. -/
def Framed (take : Given → Except UsageError Given) : Prop :=
  ∀ given after, take given = .ok after →
    given.settled <+: after.settled ∧
      ∀ path, after.isGiven .output = false →
        take (given.withOutput path) = .ok (after.withOutput path)

variable {arguments : Arguments} {given after : Given}

theorem isGiven_of_settled {slot : Slot} (h : given.settled <+: after.settled)
    (hafter : after.isGiven slot = false) : given.isGiven slot = false := by
  obtain ⟨more, hmore⟩ := h
  unfold isGiven at hafter ⊢
  rw [← hmore, List.any_append, Bool.or_eq_false_iff] at hafter
  exact hafter.1

theorem isGiven_withOutput {slot : Slot} (hslot : slot ≠ .output) (path : String) :
    (given.withOutput path).isGiven slot = given.isGiven slot := by
  have hbeq : (Slot.output == slot) = false := by
    rw [beq_eq_false_iff_ne]
    exact fun heq => hslot heq.symm
  simp [isGiven, withOutput, hbeq]

theorem values_withOutput {slot : Slot} (hslot : slot ≠ .output) (path : String) :
    (given.withOutput path).values slot = given.values slot := by
  have hbeq : (Slot.output == slot) = false := by
    rw [beq_eq_false_iff_ne]
    exact fun heq => hslot heq.symm
  simp [values, withOutput, hbeq]

theorem Framed.ok : Framed .ok := by
  rintro given _ ⟨⟩
  exact ⟨List.prefix_refl _, fun path _ => rfl⟩

theorem Framed.error (usage : UsageError) : Framed fun _ => .error usage := by
  intro given after h
  exact absurd h (by simp)

/-- Two ways after each other. -/
theorem Framed.bind {first second : Given → Except UsageError Given} (hfirst : Framed first)
    (hsecond : Framed second) : Framed fun given => first given >>= second := by
  intro given after h
  obtain ⟨middle, hmiddle, hlast⟩ := except_bind_eq_ok_iff.1 h
  obtain ⟨hbefore, hwith⟩ := hfirst given middle hmiddle
  obtain ⟨hbehind, hthen⟩ := hsecond middle after hlast
  refine ⟨hbefore.trans hbehind, fun path hafter => ?_⟩
  exact except_bind_eq_ok_iff.2
    ⟨middle.withOutput path, hwith path (isGiven_of_settled hbehind hafter), hthen path hafter⟩

/-- A change of what is pending. -/
theorem Framed.pend (pending : Option (Slot × List String)) :
    Framed fun given => .ok { given with pending } := by
  rintro given _ ⟨⟩
  exact ⟨List.prefix_refl _, fun path _ => rfl⟩

theorem Framed.accept (arguments : Arguments) (slot : Slot) {values : List String}
    (hvalues : values ≠ []) : Framed fun given => given.accept arguments slot values := by
  intro given after h
  change given.accept arguments slot values = .ok after at h
  unfold Given.accept at h
  split at h
  · exact absurd h (by simp)
  · rename_i hnew
    split at h
    · exact absurd h (by simp)
    · rename_i hpath
      obtain rfl := Except.ok.inj h
      refine ⟨List.prefix_append _ _, fun path hafter => ?_⟩
      have hslot : slot ≠ .output := by
        rintro rfl
        obtain ⟨value, more, rfl⟩ := List.exists_cons_of_ne_nil hvalues
        simp [isGiven] at hafter
      change Given.accept arguments (given.withOutput path) slot values = _
      rw [Given.accept, isGiven_withOutput hslot, if_neg hnew, if_neg hpath]
      rfl

theorem Framed.settle (arguments : Arguments) : Framed fun given => given.settle arguments := by
  intro given after h
  obtain ⟨settled, pending⟩ := given
  match pending with
  | none => exact Framed.ok _ after h
  | some (slot, []) => exact absurd h (by simp [Given.settle])
  | some (slot, value :: values) =>
      exact Framed.accept arguments slot (List.cons_ne_nil value values) ⟨settled, none⟩ after h

theorem Framed.option (arguments : Arguments) (slot : Slot) (value : Option String) :
    Framed fun given => given.option arguments slot value := by
  refine Framed.bind (Framed.settle arguments) ?_
  split
  · cases value with
    | none => exact Framed.pend _
    | some value => exact Framed.accept arguments slot (List.cons_ne_nil value [])
  · split
    · exact Framed.error _
    · split
      · exact Framed.error _
      · exact Framed.accept arguments slot (List.cons_ne_nil "" [])

theorem Framed.long (arguments : Arguments) (name : String) (value : Option String) :
    Framed fun given => given.long arguments name value := by
  unfold Given.long
  cases arguments.long? name with
  | none => exact Framed.error _
  | some slot =>
      simp only
      split
      · exact Framed.error _
      · exact Framed.option arguments slot value

theorem Framed.shorts (arguments : Arguments) (names : List Char) :
    Framed fun given => given.shorts arguments names := by
  induction names with
  | nil => exact Framed.ok
  | cons c names ih =>
      unfold Given.shorts
      cases arguments.short? c with
      | none => exact Framed.error _
      | some slot =>
          simp only
          split
          · exact Framed.option arguments slot _
          · exact Framed.bind (Framed.option arguments slot none) ih

/-- A value for no option begins the operands, once what was pending is settled. -/
theorem Framed.begin (arguments : Arguments) (text : String) :
    Framed fun given =>
      if arguments.hasOperands then do
        let given ← given.settle arguments
        .ok { given with pending := some (.operand, [text]) }
      else .error .unknownArgument := by
  split
  · exact Framed.bind (Framed.settle arguments) (Framed.pend _)
  · exact Framed.error _

theorem Framed.value (arguments : Arguments) (isOperand : Bool) (text : String) :
    Framed fun given => given.value arguments isOperand text := by
  intro given after h
  obtain ⟨settled, pending⟩ := given
  -- which way is taken hangs on what is pending alone
  rcases pending with _ | ⟨slot, _ | ⟨value, values⟩⟩
  · exact Framed.begin arguments text ⟨settled, none⟩ after h
  · cases isOperand with
    | false => exact Framed.pend (some (slot, [text])) ⟨settled, some (slot, [])⟩ after h
    | true =>
      cases slot
      case operand =>
        exact Framed.pend (some (.operand, [text])) ⟨settled, some (.operand, [])⟩ after h
      all_goals exact Framed.begin arguments text ⟨settled, some (_, [])⟩ after h
  · cases slot
    case operand =>
      exact Framed.pend (some (.operand, value :: values ++ [text]))
        ⟨settled, some (.operand, value :: values)⟩ after h
    all_goals exact Framed.begin arguments text ⟨settled, some (_, value :: values)⟩ after h

theorem Framed.foldlM {take : Given → String → Except UsageError Given}
    (htake : ∀ text, Framed fun given => take given text) (texts : List String) :
    Framed fun given => texts.foldlM take given := by
  induction texts with
  | nil => exact Framed.ok
  | cons text texts ih => exact Framed.bind (htake text) ih

theorem Framed.takeAll (arguments : Arguments) (texts : List String) :
    Framed fun given => given.takeAll arguments texts := by
  induction texts with
  | nil => exact Framed.settle arguments
  | cons text texts ih =>
      unfold Given.takeAll
      cases Argument.form text with
      | endOfOptions =>
          exact Framed.bind (Framed.foldlM (Framed.value arguments true) texts)
            (Framed.settle arguments)
      | long name value => exact Framed.bind (Framed.long arguments name value) ih
      | shorts names => exact Framed.bind (Framed.shorts arguments names) ih
      | plain => exact Framed.bind (Framed.value arguments false text) ih

/-- An option that has its value may as well be settled before the next argument. -/
theorem takeAll_of_settle {slot : Slot} {value : String} (hslot : slot ≠ .operand)
    (hpending : given.pending = some (slot, [value]))
    (hsettle : given.settle arguments = .ok after) (texts : List String) :
    given.takeAll arguments texts = after.takeAll arguments texts := by
  have hafter : after.pending = none := by
    simp only [settle, hpending, accept] at hsettle
    split at hsettle
    · exact absurd hsettle (by simp)
    · split at hsettle
      · exact absurd hsettle (by simp)
      · rw [← Except.ok.inj hsettle]
  have hagain : after.settle arguments = .ok after := by rw [settle, hafter]
  have hoption (slot : Slot) (value : Option String) :
      given.option arguments slot value = after.option arguments slot value := by
    unfold option
    rw [hsettle, hagain]
  have hvalue (isOperand : Bool) (text : String) :
      given.value arguments isOperand text = after.value arguments isOperand text := by
    unfold Given.value
    rw [hpending, hafter]
    simp only [hsettle, hagain]
    cases slot <;> first | rfl | exact absurd rfl hslot
  induction texts with
  | nil => rw [takeAll, takeAll, hsettle, hagain]
  | cons text texts ih =>
      unfold takeAll
      cases Argument.form text with
      | endOfOptions =>
          cases texts with
          | nil => simp [hsettle, hagain, bind, Except.bind, pure, Except.pure]
          | cons first texts => simp [hvalue]
      | long name value => simp [long, hoption]
      | shorts names =>
          cases names with
          | nil => exact ih
          | cons c names => simp [shorts, hoption]
      | plain => simp [hvalue]

end Given

theorem Argument.form_shorts {text : String} {c : Char} {cs : List Char} (hc : c ≠ '-')
    (htext : text.toList = '-' :: c :: cs) : form text = .shorts (c :: cs) := by
  unfold form
  rw [htext]
  split
  · rename_i heq
    simp only [List.cons.injEq] at heq
    exact absurd heq.2.1 hc
  · rename_i heq
    simp only [List.cons.injEq] at heq
    exact absurd heq.2.1 hc
  · rename_i heq
    simp only [List.cons.injEq] at heq
    rw [← heq.2.1, ← heq.2.2]
  · rename_i hother
    exact absurd rfl (hother c cs)

/-- The option for an output file, given first, is settled first. -/
theorem Given.takeAll_outputOption {path : String} {option : List String} (hpath : path ≠ "")
    (hoption : option ∈ outputOptions path) (texts : List String) :
    Given.takeAll .group {} (option ++ texts) =
      Given.takeAll .group (Given.withOutput {} path) texts := by
  have hempty : path.isEmpty = false := by simpa using hpath
  have hshort : Arguments.group.short? 'o' = some .output := by decide
  have haccept : Given.accept .group {} .output [path] = .ok (Given.withOutput {} path) := by
    simp [accept, isGiven, hempty, withOutput]
  rcases List.mem_cons.1 hoption with rfl | hseparate
  · have hform : Argument.form ("-o=" ++ path) = .shorts ('o' :: '=' :: path.toList) :=
      Argument.form_shorts (by decide) (by simp)
    have htake : Given.option .group {} .output (some (String.ofList path.toList)) =
        .ok (Given.withOutput {} path) := by
      rw [String.ofList_toList]
      exact haccept
    rw [List.singleton_append, takeAll, hform]
    simp only [shorts, hshort, Slot.takesValue, if_true, htake]
    rfl
  · split at hseparate
    · rename_i hplain
      obtain rfl := List.mem_singleton.1 hseparate
      have hform : Argument.form "-o" = .shorts ['o'] := by decide
      have hname : Given.shorts .group {} ['o'] = .ok { pending := some (.output, []) } := by
        simp only [shorts, hshort, Slot.takesValue, if_true]
        rfl
      have hvalue : Given.value .group { pending := some (.output, []) } false path =
          .ok { pending := some (.output, [path]) } := rfl
      rw [List.cons_append, takeAll, hform]
      simp only [hname]
      change Given.takeAll .group { pending := some (.output, []) } (path :: texts) = _
      rw [takeAll, hplain]
      simp only [hvalue]
      have hsettle : Given.settle .group { pending := some (.output, [path]) } =
          .ok (Given.withOutput {} path) := haccept
      exact takeAll_of_settle (by decide) rfl hsettle texts
    · exact absurd hseparate (by simp)

def Given.groupRequest (given : Given) : GroupRequest where
  exprs := given.values .expr
  canvasExprs := given.values .canvasExpr
  output := (given.values .output).head?
  sort := given.isGiven .sort
  colors := (given.values .colors).head?
  config := (given.values .config).head?
  inputs := given.values .operand

theorem Given.groupRequest_withOutput (given : Given) (path : String) :
    (given.withOutput path).groupRequest = { given.groupRequest with output := some path } := by
  simp [groupRequest, values, isGiven, withOutput]

theorem Given.isGiven_eq_false_iff {given : Given} {slot : Slot} :
    given.isGiven slot = false ↔ given.values slot = [] := by
  simp [isGiven, values]

namespace Command

theorem read_group_eq_ok_iff {args : List String} {verbosity : Nat} {command : Command} :
    read "group" args = .ok ⟨verbosity, command⟩ ↔
      ∃ given, Given.takeAll .group {} args = .ok given ∧ given.values .operand ≠ [] ∧
        given.verbosity = verbosity ∧ .group given.groupRequest = command := by
  simp only [read, if_true]
  cases Given.takeAll .group {} args with
  | error usage => simp [bind, Except.bind]
  | ok given =>
      by_cases hinputs : given.values .operand = []
      · simp [bind, Except.bind, hinputs, throw, throwThe, MonadExceptOf.throw]
      · simp [bind, Except.bind, hinputs, pure, Except.pure, Given.groupRequest]

theorem read_outputOption {path : String} {option args : List String} {verbosity : Nat}
    {request : GroupRequest} (hpath : path ≠ "") (hoption : option ∈ outputOptions path)
    (hread : read "group" args = .ok ⟨verbosity, .group request⟩) (hnone : request.output = none) :
    read "group" (option ++ args) =
      .ok ⟨verbosity, .group { request with output := some path }⟩ := by
  obtain ⟨given, htaken, hinputs, hverbosity, hrequest⟩ := read_group_eq_ok_iff.1 hread
  obtain rfl := Command.group.inj hrequest
  have hoff : given.isGiven .output = false :=
    Given.isGiven_eq_false_iff.2 (List.head?_eq_none_iff.1 hnone)
  rw [read_group_eq_ok_iff]
  refine ⟨given.withOutput path, ?_, ?_, ?_, ?_⟩
  · rw [Given.takeAll_outputOption hpath hoption]
    exact (Given.Framed.takeAll .group args {} given htaken).2 path hoff
  · rwa [Given.values_withOutput (by decide)]
  · rw [← hverbosity, Given.verbosity, Given.values_withOutput (by decide), Given.verbosity]
  · rw [Given.groupRequest_withOutput]

/-- Only the word itself names the command for groups. -/
theorem ne_group_of_read {name : String} {args : List String} {verbosity : Nat} {command : Command}
    (hname : name ≠ "group") (hread : read name args = .ok ⟨verbosity, command⟩)
    (request : GroupRequest) : command ≠ .group request := by
  rintro rfl
  simp only [read, if_neg hname] at hread
  split at hread
  · obtain ⟨given, -, hparse⟩ := except_bind_eq_ok_iff.1 hread
    split at hparse
    · cases hparse
    · cases hparse
  · obtain ⟨given, -, hfunctions⟩ := except_bind_eq_ok_iff.1 hread
    cases hfunctions

end Command

namespace Invocation

/-- An option for an output file behind the name of the command adds the output file to the request,
whatever stands in front of the name and behind it. -/
theorem readFrom_outputOption {given : Given} {front args option : List String} {path : String}
    {verbosity : Nat} {request : GroupRequest} (hfront : "group" ∉ front) (hpath : path ≠ "")
    (hoption : option ∈ outputOptions path)
    (hread : readFrom given (front ++ "group" :: args) = .ok ⟨verbosity, .group request⟩)
    (hnone : request.output = none) :
    readFrom given (front ++ "group" :: (option ++ args)) =
      .ok ⟨verbosity, .group { request with output := some path }⟩ := by
  have hhelp : ¬"group" = "help" := by decide
  have hnames : Command.names.contains "group" = true := by decide
  induction front generalizing given with
  | nil =>
      simp only [List.nil_append, readFrom, if_neg hhelp, if_pos hnames] at hread ⊢
      obtain ⟨⟨within, command⟩, hgroup, hrest⟩ := except_bind_eq_ok_iff.1 hread
      simp only [Except.ok.injEq, mk.injEq] at hrest
      obtain ⟨hverbosity, rfl⟩ := hrest
      refine except_bind_eq_ok_iff.2
        ⟨_, Command.read_outputOption hpath hoption hgroup hnone, ?_⟩
      simp [hverbosity]
  | cons text front ih =>
      simp only [List.mem_cons, not_or] at hfront
      simp only [List.cons_append, readFrom] at hread ⊢
      split at hread
      · exact absurd hread (by simp)
      · rename_i htext
        rw [if_neg htext]
        split at hread
        · -- another command would be read here
          obtain ⟨⟨within, command⟩, hother, hrest⟩ := except_bind_eq_ok_iff.1 hread
          simp only [Except.ok.injEq, mk.injEq] at hrest
          exact absurd hrest.2
            (Command.ne_group_of_read (fun heq => hfront.1 heq.symm) hother request)
        · rename_i hname
          rw [if_neg hname]
          cases hform : Argument.form text with
          | endOfOptions =>
              simp only [hform] at hread
              split at hread
              · exact absurd hread (by simp)
              · exact absurd hread (by simp)
          | long name value =>
              simp only [hform] at hread
              obtain ⟨after, hlong, hrest⟩ := except_bind_eq_ok_iff.1 hread
              exact except_bind_eq_ok_iff.2 ⟨after, hlong, ih hfront.2 hrest⟩
          | shorts names =>
              simp only [hform] at hread
              obtain ⟨after, hshorts, hrest⟩ := except_bind_eq_ok_iff.1 hread
              exact except_bind_eq_ok_iff.2 ⟨after, hshorts, ih hfront.2 hrest⟩
          | plain => simp [hform] at hread

end Invocation

end HistEdit
