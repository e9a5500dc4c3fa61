import HistEdit.Program
import HistEdit.Proofs.FileFrame
import HistEdit.Proofs.GroupRun

/-!
Sorting only permutes what a run of grouping shows. Each group is shown on its own, from its key and
its histograms alone; so the order of the groups decides neither what is shown of one of them nor
whether the run ends well.
-/

namespace HistEdit

/-- A run of grouping with a configuration that is already read. -/
def GroupRequest.respondWith [PatternEngine] [DocumentReader] (request : GroupRequest)
    (configuration : Configuration) (surroundings : Surroundings) : Logged GroupResponse := do
  let plan ← request.plan configuration
  plan.run surroundings request.inputs

theorem GroupRequest.result_respondWith [PatternEngine] [DocumentReader] (request : GroupRequest)
    (configuration : Configuration) (surroundings : Surroundings) :
    (request.respondWith configuration surroundings).result =
      (request.plan configuration).result.bind fun plan =>
        (plan.run surroundings request.inputs).result :=
  Logged.result_bind _ _

/-- The plan without sorting is the same plan, except that it does not sort. -/
theorem GroupRequest.plan_unsorted [PatternEngine] (request : GroupRequest)
    (configuration : Configuration) :
    ({ request with sort := false }.plan { configuration with sort := false }).result =
      (request.plan configuration).result.map fun plan => { plan with sort := false } := by
  have hpalette : palette { request with sort := false } { configuration with sort := false } =
      request.palette configuration := rfl
  simp only [plan, Logged.result_bind, Logged.result_pure, Logged.result_ofExcept, hpalette]
  generalize (Expression.readLogged .builtin .histogram _).result = exprs
  generalize (Expression.readLogged .builtin .histogramThenCanvas _).result = canvasExprs
  generalize request.palette configuration = palette
  -- whichever of the three fails first fails both plans
  cases exprs with
  | error error => rfl
  | ok exprs =>
      cases canvasExprs with
      | error error => rfl
      | ok canvasExprs => cases palette <;> rfl

theorem GroupPlan.sort_plan [PatternEngine] {request : GroupRequest} {configuration : Configuration}
    {plan : GroupPlan} (h : (request.plan configuration).result = .ok plan) :
    plan.sort = (request.sort || configuration.sort) := by
  simp only [GroupRequest.plan, Logged.bind_eq_ok_iff, Logged.result_pure, Except.ok.injEq] at h
  obtain ⟨_, -, _, -, _, -, rfl⟩ := h
  rfl

section

variable {plan : GroupPlan} {surroundings : Surroundings} {inputs : List String}
  {response : GroupResponse}

/-- Another order of the groups shows the same of each of them and counts the same. -/
theorem GroupPlan.run_resort [DocumentReader] (sort : Bool)
    (h : (plan.run surroundings inputs).result = .ok response) :
    ∃ other, ({ plan with sort }.run surroundings inputs).result = .ok other ∧
      response.groups.Perm other.groups ∧ response.summary = other.summary := by
  obtain ⟨collection, hcollection, hsucceeds, hgroups, hsummary⟩ := run_eq_ok_iff.1 h
  let resorted : GroupPlan := { plan with sort }
  have hperm : (plan.order collection.groups).Perm (resorted.order collection.groups) :=
    (plan.order_perm _).trans (resorted.order_perm _).symm
  have hshown : response.groups.Perm ((resorted.order collection.groups).filterMap plan.shown?) :=
    hgroups ▸ hperm.filterMap plan.shown?
  let other : GroupResponse :=
    { groups := (resorted.order collection.groups).filterMap plan.shown?
      summary := response.summary }
  refine ⟨other, run_eq_ok_iff.2 ⟨collection, hcollection, ?_, rfl, ?_⟩, hshown, rfl⟩
  · exact fun group hgroup => hsucceeds group (hperm.mem_iff.2 hgroup)
  · rw [← hshown.length_eq]
    exact hsummary

/-- A plan that sorts shows its groups in strictly ascending order of the keys that they have before
the canvas expressions. -/
theorem GroupPlan.run_ascending [DocumentReader] (hsort : plan.sort = true)
    (h : (plan.run surroundings inputs).result = .ok response) :
    ∃ collection,
      (Collection.addDocuments surroundings plan.exprs {} inputs).result = .ok collection ∧
      response.groups = collection.groups.sort.toList.filterMap plan.shown? ∧
      collection.groups.sort.keys.Pairwise fun a b =>
        Text.bytes a.toList < Text.bytes b.toList := by
  obtain ⟨collection, hcollection, -, hgroups, -⟩ := run_eq_ok_iff.1 h
  refine ⟨collection, hcollection, ?_, ?_⟩
  · simpa only [order, hsort, if_true] using hgroups
  · obtain ⟨sources, -, -, -, rfl⟩ := Collection.addDocuments_eq_ok_iff.1 hcollection
    exact Groups.keys_sort_ascending (Groups.gathered_insertAll _).1.nodup

/-- Without canvas expressions every group is shown under its key. -/
theorem GroupPlan.map_key_shown? (h : plan.canvasExprs = [])
    (groups : List (String × List Histogram)) :
    (groups.filterMap plan.shown?).map GroupCanvas.key = groups.map Prod.fst := by
  have hshown (group : String × List Histogram) :
      plan.shown? group = some ⟨group.1, {}, plan.palette.paint group.2⟩ := by
    rw [shown?, h]
    rfl
  induction groups with
  | nil => rfl
  | cons group rest ih =>
      rw [List.filterMap_cons_some (hshown group), List.map_cons, ih, List.map_cons]

end

/-- A run reads its configuration and goes on with it. Two runs that differ in sorting only end
alike. What they show are the same groups in different orders, and they count the same; the sorted
run shows them in strictly ascending order of the keys that they have before the canvas
expressions. -/
theorem respond_sort [PatternEngine] [DocumentReader] [ConfigurationReader] (request : GroupRequest)
    (surroundings : Surroundings) :
    (request.respond surroundings =
      (request.configuration surroundings).andThen fun configuration =>
        request.respondWith configuration surroundings) ∧
    ∀ configuration : Configuration,
    let sorted := request.respondWith configuration surroundings
    let unsorted := { request with sort := false }.respondWith { configuration with sort := false }
      surroundings
    match sorted.result, unsorted.result with
    | .ok on, .ok off =>
      on.groups.Perm off.groups ∧ on.summary = off.summary ∧
      (∀ (tree : FileTree) (path : String),
        (tree.write path on.report.pretty.toUTF8).isOk =
          (tree.write path off.report.pretty.toUTF8).isOk) ∧
      ((request.sort || configuration.sort) = true →
        ∃ plan collection,
          (request.plan configuration).result = .ok plan ∧
          (Collection.addDocuments surroundings plan.exprs {} request.inputs).result =
            .ok collection ∧
          let groups := collection.groups.sort.toList
          on.groups = groups.filterMap plan.shown? ∧
          ((groups.map Prod.fst).Pairwise fun a b =>
            Text.bytes a.toList < Text.bytes b.toList) ∧
          (plan.canvasExprs = [] →
            (on.groups.map GroupCanvas.key).Pairwise fun a b =>
              Text.bytes a.toList < Text.bytes b.toList))
    | .error _, .error _ => True
    | .ok _, .error _ | .error _, .ok _ => False := by
  refine ⟨rfl, fun configuration => ?_⟩
  intro sorted unsorted
  rw [request.result_respondWith, GroupRequest.result_respondWith, request.plan_unsorted]
  cases hplan : (request.plan configuration).result with
  | error error => trivial
  | ok plan =>
      simp only [Except.bind, Except.map]
      cases hon : (plan.run surroundings request.inputs).result with
      | error error =>
          cases hoff : ({ plan with sort := false }.run surroundings request.inputs).result with
          | error error => trivial
          | ok off =>
              obtain ⟨on, hagain, -⟩ := GroupPlan.run_resort plan.sort hoff
              rw [hon] at hagain
              cases hagain
      | ok on =>
          obtain ⟨off, hoff, hgroups, hsummary⟩ := GroupPlan.run_resort false hon
          rw [hoff]
          refine ⟨hgroups, hsummary, fun tree path => tree.isOk_write path _ _, fun hsort => ?_⟩
          rw [← GroupPlan.sort_plan hplan] at hsort
          obtain ⟨collection, hcollection, hshown, hascending⟩ := GroupPlan.run_ascending hsort hon
          refine ⟨plan, collection, rfl, hcollection, hshown, hascending, fun hcanvasExprs => ?_⟩
          rw [hshown, GroupPlan.map_key_shown? hcanvasExprs]
          exact hascending

/-- Two groups in descending order. -/
theorem respond_sort_descending :
    let content := "[null,[[\"histogram\",\"b\"],[\"histogram\",\"a\"]]]"
    let surroundings : Surroundings := { read := fun _ => .ok content.toUTF8 }
    let request : GroupRequest := { sort := true, inputs := ["h.json"] }
    ∃ on off, (request.respondWith {} surroundings).result = .ok on ∧
      ({ request with sort := false }.respondWith {} surroundings).result = .ok off ∧
      on.groups.Perm off.groups ∧ on.summary = off.summary ∧
      (on.groups.map GroupCanvas.key).Pairwise fun a b =>
        Text.bytes a.toList < Text.bytes b.toList := by
  intro content surroundings request
  obtain ⟨plan, hplan, hloaded⟩ := exists_ok_of_toOption (request.plan {}).result
    (fun plan => (Document.load surroundings.read "h.json").toOption.map fun loaded =>
      let scanned := scannedFrom [("h.json", loaded.2)]
      (plan.canvasExprs.length, decide (∀ h ∈ scanned, (evaluate plan.exprs h).Succeeds)))
    (b := some (0, true)) (by decide +kernel)
  obtain ⟨⟨format, document⟩, hload, hview⟩ := exists_ok_of_toOption _ _ hloaded
  simp only [Prod.mk.injEq, decide_eq_true_eq, List.length_eq_zero_iff] at hview
  obtain ⟨hcanvasExprs, hsucceeds⟩ := hview
  obtain ⟨on, hrun⟩ := GroupPlan.run_single hload hsucceeds hcanvasExprs
  have hon : (request.respondWith {} surroundings).result = .ok on := by
    rw [request.result_respondWith, hplan]
    exact hrun
  have hsort := (respond_sort request surroundings).2 {}
  simp only [hon] at hsort
  cases hoff : ({ request with sort := false }.respondWith {} surroundings).result with
  | error error => simp only [hoff] at hsort
  | ok off =>
      simp only [hoff] at hsort
      obtain ⟨hgroups, hsummary, -, hascending⟩ := hsort
      obtain ⟨found, collection, hfound, -, -, -, hkeys⟩ := hascending rfl
      obtain rfl : plan = found := Except.ok.inj (hplan.symm.trans hfound)
      exact ⟨on, off, hon, rfl, hgroups, hsummary, hkeys hcanvasExprs⟩

end HistEdit
