import HistEdit.Proofs.ReachableCanvas
import HistEdit.Proofs.StyleCalls

/-!
Painting fills gaps. The histogram at a place takes the color of that place in the ring, for its
line and for its marker, wherever none was set; nothing else changes. What functions set while
expressions were run, on histograms or on a canvas with its group, is therefore shown as it was set.
-/

namespace HistEdit

namespace Palette

def paintAt (palette : Palette) (place : Nat) (h : Histogram) : Histogram :=
  match palette.color? place with
  | some color => fill color h
  | none => h

section

variable {palette : Palette} {color : Int16} {h : Histogram} {directive : Directive}
  {value : directive.Value}

@[simp] theorem length_paint (palette : Palette) (histograms : List Histogram) :
    (palette.paint histograms).length = histograms.length :=
  List.length_mapIdx

theorem getElem?_paint (palette : Palette) (histograms : List Histogram) (place : Nat) :
    (palette.paint histograms)[place]? = histograms[place]?.map (palette.paintAt place) :=
  List.getElem?_mapIdx

/-- Every palette but the empty one has a color for each place. -/
theorem exists_color (h : palette.colors ≠ []) (place : Nat) :
    ∃ color, palette.colors[place % palette.colors.length]? = some color := by
  have hplace : place % palette.colors.length < palette.colors.length :=
    Nat.mod_lt _ (List.length_pos_of_ne_nil h)
  exact ⟨_, List.getElem?_eq_getElem hplace⟩

theorem paintAt_of_nil (hnil : palette.colors = []) (place : Nat) (h : Histogram) :
    palette.paintAt place h = h := by
  simp [paintAt, color?, hnil]

theorem paintAt_of_color {place : Nat}
    (hcolor : palette.colors[place % palette.colors.length]? = some color) (h : Histogram) :
    palette.paintAt place h = fill color h := by
  rw [paintAt, color?, hcolor]

theorem paint_of_nil (hnil : palette.colors = []) (histograms : List Histogram) :
    palette.paint histograms = histograms := by
  refine List.ext_getElem? fun place => ?_
  rw [getElem?_paint, Option.map_congr fun h _ => paintAt_of_nil hnil place h]
  exact congrFun Option.map_id _

/-- A directive that is set stays. -/
theorem get_fill (hset : h.style.get directive = some value) :
    (fill color h).style.get directive = some value := by
  cases directive with
  | lineColor => exact congrArg (fun set => some (set.getD color)) hset
  | markerColor => exact congrArg (fun set => some (set.getD color)) hset
  | _ => exact hset

theorem get_paintAt {place : Nat} (hset : h.style.get directive = some value) :
    (palette.paintAt place h).style.get directive = some value := by
  unfold paintAt
  split
  · exact get_fill hset
  · exact hset

/-- Painting touches the two colors only. -/
theorem paintAt_frame (palette : Palette) (place : Nat) (h : Histogram) :
    palette.paintAt place h =
      { h with
        style := { h.style with
          lineColor := (palette.paintAt place h).style.lineColor
          markerColor := (palette.paintAt place h).style.markerColor } } := by
  unfold paintAt
  split <;> rfl

/-- Once a color was set for every gap, no palette finds a gap. -/
theorem paint_paint (hcolors : palette.colors ≠ []) (other : Palette)
    (histograms : List Histogram) :
    other.paint (palette.paint histograms) = palette.paint histograms := by
  refine List.ext_getElem? fun place => ?_
  rw [getElem?_paint, getElem?_paint, Option.map_map]
  obtain ⟨color, hcolor⟩ := exists_color hcolors place
  refine Option.map_congr fun h _ => ?_
  rw [Function.comp_apply, paintAt_of_color hcolor]
  unfold paintAt
  split <;> rfl

end

end Palette

def Effect.histogramCall? : Effect → Option (Call HistogramAction)
  | .histogram call => some call
  | .none | .canvas _ => Option.none

/-- The calls of functions on histograms that the matches among some steps bring about, in order. -/
def histogramCalls (steps : List Step) : List (Call HistogramAction) :=
  steps.filterMap fun step => step.effect.histogramCall?

theorem histogramActions_eq (steps : List Step) :
    histogramActions steps = (histogramCalls steps).map Call.action := by
  rw [histogramActions, histogramCalls, List.map_filterMap]
  congr 1
  funext step
  cases step.effect <;> rfl

theorem Histogram.style_called (h : Histogram) (steps : List Step) :
    (h.called (histogramCalls steps)).style = h.style.actedOn (histogramActions steps) := by
  rw [called_eq, histogramActions_eq]
  exact List.foldl_map.symm

/-- However an evaluation comes out, the style is what the calls of its matches make of it. -/
theorem Histogram.style_evaluate (expressions : List Expression) (h : Histogram) :
    (evaluate expressions h).subject.style =
      (h.called (histogramCalls (evaluate expressions h).steps)).style := by
  have hacted := (subject_runAll expressions 0 { subject := h }).trans (actAll_histogram _ h)
  have hfinish : evaluate expressions h = (runAll 0 { subject := h } expressions).finish :=
    evaluate_eq_evaluateFrom expressions h
  rw [style_called, hfinish, Run.steps_finish]
  generalize runAll 0 { subject := h } expressions = run at hacted
  have hstyle : run.finish.subject.style = run.state.subject.style := by
    unfold Run.finish
    split
    · rw [State.writeBack_histogram]
    · rfl
    · rfl
  rw [hstyle, hacted]

/-- However an evaluation comes out, all styles of a group are what the calls of its matches make of
them. -/
theorem GroupCanvas.styles_evaluate (expressions : List Expression) (group : GroupCanvas) :
    (evaluate expressions group).subject.histograms.map Histogram.style =
      group.histograms.map fun h =>
        (h.called (histogramCalls (evaluate expressions group).steps)).style := by
  have hacted := (subject_runAll expressions 0 { subject := group }).trans (actAll_group _ group)
  obtain ⟨histograms, hleft, hstyles, -⟩ :=
    exists_finish (runAll 0 { subject := group } expressions)
  have hfinish : evaluate expressions group = (runAll 0 { subject := group } expressions).finish :=
    evaluate_eq_evaluateFrom expressions group
  simp only [Histogram.style_called]
  rw [hfinish, hleft, hstyles, hacted, Run.steps_finish]
  simp [actedOn]

theorem CallsMadeBy.of_mem_histogramCalls {σ : Type} [Subject σ] {functions : Functions}
    {expressions : List Expression} (h : CallsMadeBy functions expressions) {subject : σ}
    {call : Call HistogramAction}
    (hcall : call ∈ histogramCalls (evaluate expressions subject).steps) :
    functions.histogram.Makes call := by
  obtain ⟨step, hstep, heffect⟩ := List.mem_filterMap.1 hcall
  have hmade := h.effect_of_mem hstep
  cases hmatched : step.effect with
  | histogram made =>
      rw [hmatched] at heffect hmade
      obtain rfl : made = call := Option.some.inj heffect
      exact hmade
  | none => rw [hmatched] at heffect; cases heffect
  | canvas _ => rw [hmatched] at heffect; cases heffect

/-- A style shows what some calls say: each directive that one of them sets is as the last of these
gives it, and any other that was set before is as it was. -/
def Style.Shows (style : Style) (calls : List (Call HistogramAction)) (before : Style) : Prop :=
  ∀ directive : Directive,
    match (calls.filter directive.isSetBy).getLast? with
    | some call =>
      ∃ value, directive.given? call.name call.args = some value ∧
        style.get directive = some value
    | none => ∀ value, before.get directive = some value → style.get directive = some value

theorem Histogram.shows_called {calls : List (Call HistogramAction)}
    (hmade : ∀ call ∈ calls, Functions.builtin.histogram.Makes call) (h : Histogram) :
    (h.called calls).style.Shows calls h.style := by
  intro directive
  have hget := h.get_called (fun call hmem => Call.asSpelled_of_makes (hmade call hmem)) directive
  split at hget
  · next hnone =>
      rw [hnone]
      exact fun value hset => hget.trans hset
  · next call hlast =>
      rw [hlast]
      exact hget

/-- Painting overwrites nothing that a style shows. -/
theorem Style.Shows.paintAt {calls : List (Call HistogramAction)} {before : Style} {h : Histogram}
    (hshows : h.style.Shows calls before) (palette : Palette) (place : Nat) :
    (palette.paintAt place h).style.Shows calls before := by
  intro directive
  have hdirective := hshows directive
  cases hlast : (calls.filter directive.isSetBy).getLast? with
  | none =>
      rw [hlast] at hdirective
      exact fun value hset => Palette.get_paintAt (hdirective value hset)
  | some call =>
      rw [hlast] at hdirective
      obtain ⟨value, hgiven, hset⟩ := hdirective
      exact ⟨value, hgiven, Palette.get_paintAt hset⟩

theorem Histogram.style_called_congr {h other : Histogram} (hstyle : h.style = other.style)
    (calls : List (Call HistogramAction)) :
    (h.called calls).style = (other.called calls).style := by
  rw [called_eq, called_eq other, hstyle]

section

variable {plan : GroupPlan} {shown : GroupCanvas} {group : String × List Histogram}

/-- Expressions of a plan call the functions that come with the program. -/
theorem GroupRequest.exprs_madeBy_of_plan [PatternEngine] {request : GroupRequest}
    {configuration : Configuration} (h : (request.plan configuration).result = .ok plan) :
    CallsMadeBy .builtin plan.exprs := by
  simp only [GroupRequest.plan, Logged.bind_eq_ok_iff, Logged.result_pure, Except.ok.injEq] at h
  obtain ⟨exprs, hread, _, -, _, -, rfl⟩ := h
  exact Expression.callsMadeBy_of_readLogged hread

theorem GroupPlan.histograms_of_shown? (h : plan.shown? group = some shown) :
    shown.histograms =
      plan.palette.paint (evaluate plan.canvasExprs (canvasOf group)).subject.histograms := by
  obtain ⟨⟨name, edited⟩, haccepted, rfl⟩ := Option.map_eq_some_iff.1 h
  obtain ⟨-, rfl⟩ := Evaluation.accepted?_eq_some_iff.1 haccepted
  rfl

/-- Each group of a run has its members from histograms that the expressions accept. -/
theorem GroupPlan.exists_source_of_mem [DocumentReader] {surroundings : Surroundings}
    {inputs : List String} {collection : Collection}
    (hcollection : (Collection.addDocuments surroundings plan.exprs {} inputs).result =
      .ok collection)
    (hgroup : group ∈ plan.order collection.groups) {member : Histogram}
    (hmember : member ∈ group.2) :
    ∃ source, (evaluate plan.exprs source).accepted? = some (group.1, member) := by
  obtain ⟨sources, -, -, -, rfl⟩ := Collection.addDocuments_eq_ok_iff.1 hcollection
  have hgathers := plan.gathers_order (acceptedFrom plan.exprs (scannedFrom sources))
  rw [hgathers.members group hgroup] at hmember
  obtain ⟨⟨key, h⟩, hpair, rfl⟩ := List.mem_map.1 hmember
  obtain ⟨haccepted, hkey⟩ := List.mem_filter.1 hpair
  obtain rfl : key = group.1 := by simpa using hkey
  obtain ⟨source, -, hsource⟩ := List.mem_filterMap.1 haccepted
  exact ⟨source, hsource⟩

/-- A histogram that is shown has the style that the calls of both evaluations give it, with its
gaps filled. -/
theorem GroupPlan.shows_of_shown? (hexprs : CallsMadeBy .builtin plan.exprs)
    (hcanvasExprs : CallsMadeBy .builtin plan.canvasExprs) (h : plan.shown? group = some shown)
    {source member painted : Histogram} {place : Nat} (hmember : group.2[place]? = some member)
    (hsource : (evaluate plan.exprs source).accepted? = some (group.1, member))
    (hpainted : shown.histograms[place]? = some painted) :
    painted.style.Shows (histogramCalls (evaluate plan.exprs source).steps ++
      histogramCalls (evaluate plan.canvasExprs (canvasOf group)).steps) source.style := by
  obtain ⟨-, rfl⟩ := Evaluation.accepted?_eq_some_iff.1 hsource
  have hstyles := GroupCanvas.styles_evaluate plan.canvasExprs (canvasOf group)
  have hmade : ∀ call ∈ histogramCalls (evaluate plan.exprs source).steps ++
      histogramCalls (evaluate plan.canvasExprs (canvasOf group)).steps,
      Functions.builtin.histogram.Makes call :=
    List.forall_mem_append.2 ⟨fun _ hcall => hexprs.of_mem_histogramCalls hcall,
      fun _ hcall => hcanvasExprs.of_mem_histogramCalls hcall⟩
  rw [histograms_of_shown? h, Palette.getElem?_paint, Option.map_eq_some_iff] at hpainted
  obtain ⟨left, hleft, rfl⟩ := hpainted
  -- the style at this place, before it was painted, is what both lists of calls make of the source
  have hstyle := congrArg (fun styles => styles[place]?) hstyles
  simp only [List.getElem?_map, hleft, Option.map_some] at hstyle
  have hmember : (canvasOf group).histograms[place]? = some (evaluate plan.exprs source).subject :=
    hmember
  rw [hmember, Option.map_some, Option.some.injEq,
    Histogram.style_called_congr (Histogram.style_evaluate plan.exprs source),
    ← Histogram.called_append] at hstyle
  refine Style.Shows.paintAt ?_ plan.palette place
  rw [hstyle]
  exact Histogram.shows_called hmade source

end

/-- Painting fills gaps only, by place. It keeps the number and the order of the histograms and
everything of each but the two colors. An empty palette changes nothing. Any other one gives the
color of the place in its ring to the line and to the marker, each where it has none, and after that
no palette changes anything more. No directive that is set is overwritten: in what a run of grouping
shows, every histogram has each directive as the last call that sets it says, in the expressions and
then in those for canvases, or as its document does. -/
theorem Palette.paint_fills_gaps [PatternEngine] [DocumentReader] [ConfigurationReader]
    (palette : Palette) :
    (∀ histograms : List Histogram,
      (palette.paint histograms).length = histograms.length ∧
      ∀ (place : Nat) (h : Histogram), histograms[place]? = some h →
        ∃ painted, (palette.paint histograms)[place]? = some painted ∧
          painted =
            { h with
              style := { h.style with
                lineColor := painted.style.lineColor
                markerColor := painted.style.markerColor } } ∧
          (palette.colors ≠ [] →
            ∃ color, palette.colors[place % palette.colors.length]? = some color ∧
              painted.style.lineColor = some (h.style.lineColor.getD color) ∧
              painted.style.markerColor = some (h.style.markerColor.getD color)) ∧
          ∀ (directive : Directive) (value : directive.Value),
            h.style.get directive = some value → painted.style.get directive = some value) ∧
    (palette.colors = [] → ∀ histograms, palette.paint histograms = histograms) ∧
    (palette.colors ≠ [] → ∀ (other : Palette) (histograms : List Histogram),
      other.paint (palette.paint histograms) = palette.paint histograms) ∧
    ∀ (request : GroupRequest) (surroundings : Surroundings) (response : GroupResponse),
      (request.respond surroundings).result = .ok response →
      ∃ configuration plan, (request.configuration surroundings).result = .ok configuration ∧
        (request.plan configuration).result = .ok plan ∧
        ∀ shown ∈ response.groups, ∃ group, plan.shown? group = some shown ∧
          let evaluation := evaluate plan.canvasExprs (canvasOf group)
          shown.histograms = plan.palette.paint evaluation.subject.histograms ∧
          ∀ (place : Nat) (painted : Histogram), shown.histograms[place]? = some painted →
            ∃ source member, group.2[place]? = some member ∧
              (evaluate plan.exprs source).accepted? = some (group.1, member) ∧
              painted.style.Shows
                (histogramCalls (evaluate plan.exprs source).steps ++
                  histogramCalls evaluation.steps) source.style := by
  refine ⟨fun histograms => ⟨palette.length_paint histograms, ?_⟩, paint_of_nil, paint_paint, ?_⟩
  · intro place h hplace
    refine ⟨palette.paintAt place h, by rw [getElem?_paint, hplace]; rfl,
      palette.paintAt_frame place h, fun hcolors => ?_, fun directive value => get_paintAt⟩
    obtain ⟨color, hcolor⟩ := exists_color hcolors place
    rw [paintAt_of_color hcolor]
    exact ⟨color, hcolor, rfl, rfl⟩
  · intro request surroundings response h
    simp only [GroupRequest.respond, Logged.bind_eq_ok_iff] at h
    obtain ⟨configuration, hconfiguration, plan, hplan, hrun⟩ := h
    obtain ⟨collection, hcollection, -, hgroups, -⟩ := GroupPlan.run_eq_ok_iff.1 hrun
    refine ⟨configuration, plan, hconfiguration, hplan, fun shown hshown => ?_⟩
    rw [hgroups] at hshown
    obtain ⟨group, hgroup, hshown⟩ := List.mem_filterMap.1 hshown
    refine ⟨group, hshown, GroupPlan.histograms_of_shown? hshown, fun place painted hpainted => ?_⟩
    have hlength : shown.histograms.length = group.2.length := by
      simpa [GroupCanvas.identities] using congrArg List.length (GroupPlan.identities_shown? hshown)
    have hplace : place < group.2.length :=
      hlength ▸ (List.getElem?_eq_some_iff.1 hpainted).1
    have hmember : group.2[place]? = some group.2[place] := List.getElem?_eq_getElem hplace
    obtain ⟨source, hsource⟩ :=
      GroupPlan.exists_source_of_mem hcollection hgroup (List.mem_of_getElem? hmember)
    exact ⟨source, group.2[place], hmember, hsource,
      GroupPlan.shows_of_shown? (GroupRequest.exprs_madeBy_of_plan hplan)
        (GroupRequest.callsMadeBy_of_plan hplan) hshown hmember hsource hpainted⟩

/-- A ring of two colors goes round, and a marker whose color was set keeps it while its line takes
the color of the place. -/
theorem Palette.paint_fills_gaps_ring :
    let palette : Palette := ⟨[2, 4]⟩
    let marked : Histogram := { name := "c", style := { markerColor := some 9 } }
    let histograms : List Histogram := [{ name := "a" }, { name := "b" }, marked]
    (∃ painted, (palette.paint histograms)[2]? = some painted ∧
      painted.style.lineColor = some 2 ∧ painted.style.markerColor = some 9) ∧
      (⟨[1]⟩ : Palette).paint (palette.paint histograms) = palette.paint histograms := by
  intro palette marked histograms
  obtain ⟨hpaint, -, hagain, -⟩ := paint_fills_gaps palette
  have hcolors : palette.colors ≠ [] := List.cons_ne_nil _ _
  obtain ⟨painted, hpainted, -, hfill, hkept⟩ := (hpaint histograms).2 2 marked rfl
  obtain ⟨color, hcolor, hline, -⟩ := hfill hcolors
  have hplace : palette.colors[2 % palette.colors.length]? = some 2 := by simp [palette]
  obtain rfl : 2 = color := Option.some.inj (hplace.symm.trans hcolor)
  exact ⟨⟨painted, hpainted, hline, hkept .markerColor (9 : Int16) rfl⟩, hagain hcolors _ _⟩

end HistEdit
