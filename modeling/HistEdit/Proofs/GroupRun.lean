import HistEdit.Configuration.Reader
import HistEdit.Document.Reader
import HistEdit.Grouping
import HistEdit.Pattern.Machine
import HistEdit.Proofs.Gathering
import HistEdit.Proofs.Reading
import HistEdit.Proofs.Run
import HistEdit.Proofs.Traversal

/-!
What a run of grouping does with its histograms. A run that ends well has evaluated every histogram
of its documents, put each one that was accepted into the group of its key, and shown those groups
whose canvas was accepted, with the same histograms in the same order.
-/

namespace HistEdit

namespace Logged

variable {α β : Type}

theorem result_bind (first : Logged α) (next : α → Logged β) :
    (first >>= next).result = first.result.bind fun value => (next value).result :=
  result_andThen first next

@[simp] theorem result_pure (value : α) : (pure value : Logged α).result = .ok value := rfl

@[simp] theorem result_ok (value : α) : (ok value).result = .ok value := rfl

@[simp] theorem result_tell (event : Event) : (tell event).result = .ok () := rfl

@[simp] theorem result_ofExcept (result : Except EditError α) :
    (ofExcept result).result = result := rfl

theorem bind_eq_ok_iff {first : Logged α} {next : α → Logged β} {value : β} :
    (first >>= next).result = .ok value ↔
      ∃ middle, first.result = .ok middle ∧ (next middle).result = .ok value := by
  rw [result_bind]
  cases first.result with
  | error error => simp [Except.bind]
  | ok middle => simp [Except.bind]

end Logged

section

variable {σ : Type}

/-- An evaluation that no error ended. -/
def Evaluation.Succeeds (evaluation : Evaluation σ) : Prop :=
  ∀ error, evaluation.outcome ≠ .failed error

instance (evaluation : Evaluation σ) : Decidable evaluation.Succeeds :=
  match h : evaluation.outcome with
  | .accepted _ | .rejected => isTrue fun error hfailed => by simp [h] at hfailed
  | .failed error => isFalse fun hsucceeds => hsucceeds error h

def Evaluation.accepted? (evaluation : Evaluation σ) : Option (String × σ) :=
  match evaluation.outcome with
  | .accepted group => some (group, evaluation.subject)
  | .rejected | .failed _ => none

theorem Evaluation.accepted?_eq_some_iff {evaluation : Evaluation σ} {group : String}
    {subject : σ} :
    evaluation.accepted? = some (group, subject) ↔
      evaluation.outcome = .accepted group ∧ evaluation.subject = subject := by
  rw [accepted?]
  cases evaluation.outcome <;> simp

theorem Evaluation.logged_bind_eq_ok_iff {β : Type} {evaluation : Evaluation σ}
    {next : σ × Option String → Logged β} {value : β} :
    (evaluation.logged >>= next).result = .ok value ↔
      evaluation.Succeeds ∧
        (next (evaluation.subject, evaluation.accepted?.map Prod.fst)).result = .ok value := by
  obtain ⟨steps, subject, outcome⟩ := evaluation
  rw [Logged.bind_eq_ok_iff]
  cases outcome <;> simp [logged, Succeeds, accepted?]

end

section Scan

variable {expressions : List Expression} {surroundings : Surroundings}

/-- The histograms that are accepted, in order, each with the key of its group. -/
def acceptedFrom (expressions : List Expression) (histograms : List Histogram) :
    List (String × Histogram) :=
  histograms.filterMap fun h => (evaluate expressions h).accepted?

/-- Documents with their paths, as a run finds them. -/
def Surroundings.Holds [DocumentReader] (surroundings : Surroundings)
    (sources : List (String × Document)) : Prop :=
  ∀ source ∈ sources, ∃ format,
    Document.load surroundings.read source.1 = .ok (format, source.2)

/-- The histograms of documents in scan order: every record of a document in document order, told
where it was found. -/
def scannedFrom (sources : List (String × Document)) : List Histogram :=
  sources.flatMap fun (path, document) =>
    document.entries.map (Histogram.placed (document.origin ((fileName? path).getD "")))

def Collection.extend (collection : Collection) (expressions : List Expression)
    (histograms : List Histogram) : Collection where
  groups := collection.groups.insertAll (acceptedFrom expressions histograms)
  scanned := collection.scanned + histograms.length

theorem Collection.extend_append (collection : Collection) (expressions : List Expression)
    (histograms later : List Histogram) :
    collection.extend expressions (histograms ++ later) =
      (collection.extend expressions histograms).extend expressions later := by
  simp [extend, acceptedFrom, Groups.insertAll_append, Nat.add_assoc]

theorem Collection.add_eq_ok_iff {collection after : Collection} {h : Histogram} :
    (collection.add expressions h).result = .ok after ↔
      (evaluate expressions h).Succeeds ∧ collection.extend expressions [h] = after := by
  rw [add, Evaluation.logged_bind_eq_ok_iff]
  cases houtcome : (evaluate expressions h).outcome <;>
    simp [houtcome, Evaluation.accepted?, extend, acceptedFrom, Groups.insertAll,
      Logged.bind_eq_ok_iff]

theorem Collection.addAll_eq_ok_iff {collection after : Collection} {histograms : List Histogram} :
    (collection.addAll expressions histograms).result = .ok after ↔
      (∀ h ∈ histograms, (evaluate expressions h).Succeeds) ∧
        collection.extend expressions histograms = after := by
  induction histograms generalizing collection with
  | nil => simp [addAll, extend, acceptedFrom, Groups.insertAll]
  | cons h rest ih =>
      have hextend := collection.extend_append expressions [h] rest
      rw [List.singleton_append] at hextend
      rw [addAll, Logged.bind_eq_ok_iff, List.forall_mem_cons, hextend, and_assoc]
      simp [add_eq_ok_iff, ih]

theorem scannedFrom_cons (path : String) (document : Document)
    (sources : List (String × Document)) :
    scannedFrom ((path, document) :: sources) =
      document.histogramsAt path ++ scannedFrom sources := by
  simp [scannedFrom, Document.histogramsAt, Document.histograms_eq]

theorem Surroundings.histograms_eq_ok_iff [DocumentReader] {path : String}
    {histograms : List Histogram} :
    (surroundings.histograms path).result = .ok histograms ↔
      ∃ format document, Document.load surroundings.read path = .ok (format, document) ∧
        document.histogramsAt path = histograms := by
  simp [Surroundings.histograms, Logged.bind_eq_ok_iff]

/-- Adding documents is reading all of them and adding their histograms in scan order. -/
theorem Collection.addDocuments_eq_ok_iff [DocumentReader] {collection after : Collection}
    {paths : List String} :
    (collection.addDocuments surroundings expressions paths).result = .ok after ↔
      ∃ sources, sources.map Prod.fst = paths ∧ surroundings.Holds sources ∧
        (∀ h ∈ scannedFrom sources, (evaluate expressions h).Succeeds) ∧
        collection.extend expressions (scannedFrom sources) = after := by
  induction paths generalizing collection with
  | nil =>
      simp [addDocuments, Surroundings.Holds, scannedFrom, extend, acceptedFrom, Groups.insertAll]
  | cons path paths ih =>
      simp only [addDocuments, Logged.bind_eq_ok_iff, Logged.result_tell, addAll_eq_ok_iff,
        Surroundings.histograms_eq_ok_iff, ih]
      constructor
      · rintro ⟨-, -, _, ⟨format, document, hload, rfl⟩, _, ⟨hfirst, rfl⟩, sources, rfl, hholds,
          hrest, rfl⟩
        refine ⟨(path, document) :: sources, rfl, ?_, ?_, ?_⟩
        · exact List.forall_mem_cons.2 ⟨⟨format, hload⟩, hholds⟩
        · rw [scannedFrom_cons, List.forall_mem_append]
          exact ⟨hfirst, hrest⟩
        · rw [scannedFrom_cons, extend_append]
      · rintro ⟨sources, hpaths, hholds, hsucceeds, rfl⟩
        obtain ⟨⟨first, document⟩, sources, rfl, rfl, rfl⟩ := List.map_eq_cons_iff.1 hpaths
        obtain ⟨⟨format, hload⟩, hrest⟩ := List.forall_mem_cons.1 hholds
        rw [scannedFrom_cons, List.forall_mem_append] at hsucceeds
        refine ⟨(), trivial, _, ⟨format, document, hload, rfl⟩, _, ⟨hsucceeds.1, rfl⟩, sources, rfl,
          hrest, hsucceeds.2, ?_⟩
        rw [scannedFrom_cons, extend_append]

end Scan

section Show

variable {plan : GroupPlan}

/-- A group on a canvas of its own, before any canvas expression. -/
def canvasOf (group : String × List Histogram) : GroupCanvas where
  key := group.1
  canvas := {}
  histograms := group.2

/-- What is shown of a group: it is accepted under a name, and its histograms are coloured. -/
def GroupPlan.shown? (plan : GroupPlan) (group : String × List Histogram) : Option GroupCanvas :=
  (evaluate plan.canvasExprs (canvasOf group)).accepted?.map fun (name, edited) =>
    { edited with key := name, histograms := plan.palette.paint edited.histograms }

theorem GroupPlan.showGroup_eq_ok_iff {group : String × List Histogram}
    {shown : Option GroupCanvas} :
    (plan.showGroup group.1 group.2).result = .ok shown ↔
      (evaluate plan.canvasExprs (canvasOf group)).Succeeds ∧ plan.shown? group = shown := by
  rw [showGroup, shown?]
  change ((evaluate plan.canvasExprs (canvasOf group)).logged >>= _).result = _ ↔ _
  rw [Evaluation.logged_bind_eq_ok_iff]
  cases houtcome : (evaluate plan.canvasExprs (canvasOf group)).outcome <;>
    simp [houtcome, Evaluation.accepted?, Logged.bind_eq_ok_iff]

/-- Showing groups shows each of them on its own; it succeeds when every evaluation does. -/
theorem GroupPlan.showGroups_eq_ok_iff {groups : List (String × List Histogram)}
    {shown : List GroupCanvas} :
    (plan.showGroups groups).result = .ok shown ↔
      (∀ group ∈ groups, (evaluate plan.canvasExprs (canvasOf group)).Succeeds) ∧
        groups.filterMap plan.shown? = shown := by
  induction groups generalizing shown with
  | nil => simp [showGroups]
  | cons group rest ih =>
      change (plan.showGroup group.1 group.2 >>= _).result = _ ↔ _
      simp only [Logged.bind_eq_ok_iff, showGroup_eq_ok_iff, ih, List.forall_mem_cons,
        Logged.result_pure, Except.ok.injEq]
      constructor
      · rintro ⟨_, ⟨hfirst, rfl⟩, _, ⟨hrest, rfl⟩, rfl⟩
        refine ⟨⟨hfirst, hrest⟩, ?_⟩
        cases hshown : plan.shown? group <;> simp [hshown]
      · rintro ⟨⟨hfirst, hrest⟩, rfl⟩
        refine ⟨_, ⟨hfirst, rfl⟩, _, ⟨hrest, rfl⟩, ?_⟩
        cases hshown : plan.shown? group <;> simp [hshown]

end Show

section Identity

/-- What tells a histogram apart: its name, its path and its origin. -/
def Histogram.identity (h : Histogram) : String × String × String :=
  (h.name, h.path, h.origin)

def GroupCanvas.identities (group : GroupCanvas) : List (String × String × String) :=
  group.histograms.map Histogram.identity

theorem Histogram.identity_setField (h : Histogram) (field : Field) (text : String) :
    (h.setField field text).identity = h.identity := by
  cases field <;> rfl

theorem GroupCanvas.identities_assign (group : GroupCanvas) (field : Field) (text : String) :
    (group.assign field text).identities = group.identities := by
  obtain ⟨key, canvas, histograms⟩ := group
  cases histograms with
  | nil => rfl
  | cons lead rest => simp [assign, identities, Histogram.identity_setField]

theorem GroupCanvas.identities_writeBack (state : State GroupCanvas) :
    state.writeBack.identities = state.subject.identities := by
  unfold State.writeBack
  generalize state.subject = group
  induction writableFields generalizing group with
  | nil => rfl
  | cons field fields ih =>
      rw [List.foldl_cons, ih]
      cases state.history.written? field with
      | none => rfl
      | some version => exact group.identities_assign field version

theorem GroupCanvas.identities_of_metadata {group other : GroupCanvas}
    (h : group.metadata = other.metadata) : group.identities = other.identities := by
  have hhistograms := congrArg (fun group => group.histograms.map Histogram.identity) h
  simp only [metadata, List.map_map] at hhistograms
  exact hhistograms

/-- However the evaluation of a group comes out, it keeps its histograms in order. -/
theorem GroupCanvas.identities_evaluate (expressions : List Expression) (group : GroupCanvas) :
    (evaluate expressions group).subject.identities = group.identities := by
  have hsame : (runAll 0 { subject := group } expressions).state.subject.identities =
      group.identities :=
    identities_of_metadata ((Run.operates_law isMetadata).runAll expressions 0 _).1
  rw [evaluate]
  split
  · exact (identities_writeBack _).trans hsame
  · exact hsame
  · exact hsame

theorem Palette.identity_paint (palette : Palette) (histograms : List Histogram) :
    (palette.paint histograms).map Histogram.identity = histograms.map Histogram.identity := by
  refine List.ext_getElem (by simp [paint]) fun place _ _ => ?_
  simp only [paint, List.getElem_map, List.getElem_mapIdx]
  split <;> rfl

/-- What is shown of a group has its histograms in order. -/
theorem GroupPlan.identities_shown? {plan : GroupPlan} {group : String × List Histogram}
    {shown : GroupCanvas} (h : plan.shown? group = some shown) :
    shown.identities = group.2.map Histogram.identity := by
  obtain ⟨⟨name, edited⟩, haccepted, rfl⟩ := Option.map_eq_some_iff.1 h
  obtain ⟨-, rfl⟩ := Evaluation.accepted?_eq_some_iff.1 haccepted
  exact (Palette.identity_paint _ _).trans (GroupCanvas.identities_evaluate _ _)

end Identity

section Account

/-- Groups that hold what was accepted: each histogram once, with its key, in the order in which
they came. The groups stand in the order in which their keys were first seen, or ascend by the bytes
of their keys. -/
structure Gathers (sort : Bool) (accepted : List (String × Histogram))
    (groups : List (String × List Histogram)) : Prop where
  nodup : (groups.map Prod.fst).Nodup
  keys : ∀ key, key ∈ groups.map Prod.fst ↔ key ∈ accepted.map Prod.fst
  pairs : (pairsOf groups).Perm accepted
  members : ∀ group ∈ groups, group.2 = membersOf accepted group.1
  firstSeen : sort = false → groups.map Prod.fst = (accepted.map Prod.fst).eraseDups
  ascending : sort = true →
    (groups.map Prod.fst).Pairwise fun a b => Text.bytes a.toList < Text.bytes b.toList

def GroupPlan.order (plan : GroupPlan) (groups : Groups Histogram) :
    List (String × List Histogram) :=
  (if plan.sort then groups.sort else groups).toList

theorem GroupPlan.order_perm (plan : GroupPlan) (groups : Groups Histogram) :
    (plan.order groups).Perm groups.toList := by
  rw [order]
  split
  · exact groups.toList_sort_perm
  · exact .refl _

theorem GroupPlan.gathers_order (plan : GroupPlan) (accepted : List (String × Histogram)) :
    Gathers plan.sort accepted (plan.order (({} : Groups Histogram).insertAll accepted)) := by
  obtain ⟨hindexed, hgathered⟩ := Groups.gathered_insertAll accepted
  have hperm := plan.order_perm (({} : Groups Histogram).insertAll accepted)
  rw [hgathered] at hperm
  have hkeys := hperm.map Prod.fst
  rw [keys_gathered] at hkeys
  constructor
  case nodup => exact hkeys.nodup_iff.2 (nodup_eraseDups _)
  case keys => exact fun key => hkeys.mem_iff.trans List.mem_eraseDups
  case pairs => exact (hperm.flatMap_right _).trans (pairsOf_gathered accepted)
  case members =>
    intro group hgroup
    obtain ⟨key, -, rfl⟩ := List.mem_map.1 (hperm.mem_iff.1 hgroup)
    rfl
  case firstSeen =>
    intro hsort
    simp only [order, hsort, Bool.false_eq_true, if_false, hgathered]
    exact keys_gathered accepted
  case ascending =>
    intro hsort
    simp only [order, hsort, if_true]
    exact Groups.keys_sort_ascending hindexed.nodup

theorem GroupPlan.run_eq_ok_iff [DocumentReader] {plan : GroupPlan} {surroundings : Surroundings}
    {inputs : List String} {response : GroupResponse} :
    (plan.run surroundings inputs).result = .ok response ↔
      ∃ collection,
        (Collection.addDocuments surroundings plan.exprs {} inputs).result = .ok collection ∧
        (∀ group ∈ plan.order collection.groups,
          (evaluate plan.canvasExprs (canvasOf group)).Succeeds) ∧
        response.groups = (plan.order collection.groups).filterMap plan.shown? ∧
        response.summary =
          { filesScanned := inputs.length
            histogramsScanned := collection.scanned
            histogramsSelected := collection.groups.memberCount
            groups := response.groups.length } := by
  obtain ⟨groups, summary⟩ := response
  simp only [run, Logged.bind_eq_ok_iff, Logged.result_tell, Logged.result_pure,
    showGroups_eq_ok_iff]
  constructor
  · rintro ⟨collection, hcollection, _, ⟨hsucceeds, rfl⟩, -, -, hresponse⟩
    cases hresponse
    exact ⟨collection, hcollection, hsucceeds, rfl, rfl⟩
  · rintro ⟨collection, hcollection, hsucceeds, rfl, rfl⟩
    exact ⟨collection, hcollection, _, ⟨hsucceeds, rfl⟩, (), trivial, rfl⟩

theorem length_scannedFrom (sources : List (String × Document)) :
    (scannedFrom sources).length = (sources.map fun source => source.2.entries.length).sum := by
  simp [scannedFrom, List.length_flatMap]

/-- A run on one document ends well when the document can be read and no expression fails on its
histograms. -/
theorem GroupPlan.run_single [DocumentReader] {plan : GroupPlan} {surroundings : Surroundings}
    {path : String} {format : DocumentFormat} {document : Document}
    (hload : Document.load surroundings.read path = .ok (format, document))
    (hsucceeds : ∀ h ∈ scannedFrom [(path, document)], (evaluate plan.exprs h).Succeeds)
    (hcanvasExprs : plan.canvasExprs = []) :
    ∃ response, (plan.run surroundings [path]).result = .ok response := by
  let collection := Collection.extend {} plan.exprs (scannedFrom [(path, document)])
  have hcollection :
      (Collection.addDocuments surroundings plan.exprs {} [path]).result = .ok collection :=
    Collection.addDocuments_eq_ok_iff.2
      ⟨[(path, document)], rfl, by simpa [Surroundings.Holds] using ⟨format, hload⟩, hsucceeds,
        rfl⟩
  have hcanvas (group : String × List Histogram) :
      (evaluate plan.canvasExprs (canvasOf group)).Succeeds := by
    rw [hcanvasExprs]
    exact fun error => by simp [evaluate, runAll]
  let groups := (plan.order collection.groups).filterMap plan.shown?
  let summary : Summary := ⟨1, collection.scanned, collection.groups.memberCount, groups.length⟩
  exact ⟨⟨groups, summary⟩, GroupPlan.run_eq_ok_iff.2
    ⟨collection, hcollection, fun group _ => hcanvas group, rfl, rfl⟩⟩

/-- A run of grouping that ends well accounts for every histogram. It has read its inputs in order
and evaluated every record of them; the groups hold exactly what was accepted; and what is shown of
them, in order, has the same histograms. -/
theorem respond_accounts [PatternEngine] [DocumentReader] [ConfigurationReader]
    {request : GroupRequest} {surroundings : Surroundings} {response : GroupResponse}
    (h : (request.respond surroundings).result = .ok response) :
    ∃ configuration plan sources collection,
      (request.configuration surroundings).result = .ok configuration ∧
      (request.plan configuration).result = .ok plan ∧
      sources.map Prod.fst = request.inputs ∧ surroundings.Holds sources ∧
      (Collection.addDocuments surroundings plan.exprs {} request.inputs).result =
        .ok collection ∧
      let scanned := scannedFrom sources
      let accepted := acceptedFrom plan.exprs scanned
      let groups := plan.order collection.groups
      (∀ histogram ∈ scanned, (evaluate plan.exprs histogram).Succeeds) ∧
      Gathers plan.sort accepted groups ∧
      (∀ group ∈ groups, (evaluate plan.canvasExprs (canvasOf group)).Succeeds) ∧
      response.groups = groups.filterMap plan.shown? ∧
      (∀ group ∈ groups, ∀ shown, plan.shown? group = some shown →
        shown.identities = group.2.map Histogram.identity) ∧
      response.summary =
        { filesScanned := request.inputs.length
          histogramsScanned := (sources.map fun source => source.2.entries.length).sum
          histogramsSelected := accepted.length
          groups := response.groups.length } := by
  simp only [GroupRequest.respond, Logged.bind_eq_ok_iff] at h
  obtain ⟨configuration, hconfiguration, plan, hplan, hrun⟩ := h
  obtain ⟨collection, hcollection, hsucceeds, hgroups, hsummary⟩ := GroupPlan.run_eq_ok_iff.1 hrun
  obtain ⟨sources, hsources, hholds, hscanned, hextend⟩ :=
    Collection.addDocuments_eq_ok_iff.1 hcollection
  refine ⟨configuration, plan, sources, collection, hconfiguration, hplan, hsources, hholds,
    hcollection, ?_⟩
  intro scanned accepted groups
  have hinserted : collection.groups = ({} : Groups Histogram).insertAll accepted := by
    rw [← hextend]
    rfl
  have hgathers : Gathers plan.sort accepted groups := by
    simpa only [groups, hinserted] using plan.gathers_order accepted
  refine ⟨hscanned, hgathers, hsucceeds, hgroups, ?_, ?_⟩
  · intro group hgroup shown hshown
    exact GroupPlan.identities_shown? hshown
  · have hcount : collection.scanned = scanned.length := by
      rw [← hextend]
      exact Nat.zero_add _
    have hmembers : collection.groups.memberCount = accepted.length := by
      rw [hinserted, Groups.memberCount_eq, (Groups.gathered_insertAll accepted).2]
      exact (pairsOf_gathered accepted).length_eq
    rw [hsummary, hcount, hmembers, length_scannedFrom]

/-- One document has a histogram at its top, which is accepted, and one inside a directory, which is
rejected. -/
theorem respond_accounts_select :
    let content := "[null,[[\"histogram\",\"h\"],[\"directory\",\"d\",[[\"histogram\",\"k\"]]]]]"
    let surroundings : Surroundings := { read := fun _ => .ok content.toUTF8 }
    let request : GroupRequest := { exprs := ["sn/h/; ng//all/"], inputs := ["a.json"] }
    ∃ response, (request.respond surroundings).result = .ok response ∧
      response.summary = ⟨1, 2, 1, response.groups.length⟩ := by
  intro content surroundings request
  obtain ⟨plan, hplan, hloaded⟩ := exists_ok_of_toOption (request.plan {}).result
    (fun plan => (Document.load surroundings.read "a.json").toOption.map fun loaded =>
      let scanned := scannedFrom [("a.json", loaded.2)]
      (plan.canvasExprs.length, decide (∀ h ∈ scanned, (evaluate plan.exprs h).Succeeds),
        loaded.2.entries.length, (acceptedFrom plan.exprs scanned).length))
    (b := some (0, true, 2, 1)) (by decide +kernel)
  obtain ⟨⟨format, document⟩, hload, hview⟩ := exists_ok_of_toOption _ _ hloaded
  simp only [Prod.mk.injEq, decide_eq_true_eq, List.length_eq_zero_iff] at hview
  obtain ⟨hcanvasExprs, hsucceeds, hentries, haccepted⟩ := hview
  obtain ⟨response, hrun⟩ := GroupPlan.run_single hload hsucceeds hcanvasExprs
  have hresponse : (request.respond surroundings).result = .ok response :=
    Logged.bind_eq_ok_iff.2 ⟨{}, rfl, Logged.bind_eq_ok_iff.2 ⟨plan, hplan, hrun⟩⟩
  obtain ⟨configuration, found, sources, _, hconfiguration, hfound, hsources, hholds, -, -, -, -, -,
    -, hsummary⟩ := respond_accounts hresponse
  -- the run has read this plan and this document, so the summary counts what they come to
  obtain rfl : {} = configuration := Except.ok.inj hconfiguration
  obtain rfl : plan = found := Except.ok.inj (hplan.symm.trans hfound)
  obtain ⟨⟨path, other⟩, rest, rfl, rfl, hrest⟩ := List.map_eq_cons_iff.1 hsources
  obtain rfl : rest = [] := List.map_eq_nil_iff.1 hrest
  obtain ⟨_, hagain⟩ := hholds _ (List.mem_singleton_self _)
  obtain rfl : document = other :=
    congrArg Prod.snd (Except.ok.inj (hload.symm.trans hagain))
  refine ⟨_, hresponse, hsummary.trans ?_⟩
  simp only [List.map_cons, List.map_nil, List.sum_singleton, hentries, haccepted]
  rfl

end Account

end HistEdit
