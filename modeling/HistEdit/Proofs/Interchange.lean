import HistEdit.Proofs.Decimal
import HistEdit.Proofs.OutputFile
import HistEdit.Proofs.Sorting
import HistEdit.Proofs.Tokens

/-!
Configurations on the command line. What a configuration sets can be asked for instead: its
expressions in front of those of the request, its sorting besides that of the request, and its
colours as text where the request has none. The run is then the same, with the same errors in the
same order.
-/

namespace HistEdit

/-- Colours as a command line gives them: decimal numbers with commas between them. -/
def colorsText (colors : List Int16) : String :=
  ",".intercalate (colors.map fun color => toString color.toInt)

section Colors

open Text (isSpace trim)

theorem isSpace_of_mem_toString {i : Int} {c : Char} (h : c ∈ (toString i).toList) :
    c ≠ ',' ∧ isSpace c = false := by
  rcases Number.isDigit_of_mem_toString h with rfl | hdigit
  · exact ⟨by decide, by decide⟩
  · refine ⟨?_, Text.isSpace_of_isDigit hdigit⟩
    rintro rfl
    exact absurd hdigit (by decide)

theorem trim_toString (i : Int) : trim (toString i).toList = (toString i).toList :=
  Text.trim_eq_self fun _ hc => (isSpace_of_mem_toString hc).2

/-- The tokens of a text of colours are their numbers; there is none for no colours. -/
theorem tokens_colorsText (colors : List Int16) :
    Argument.tokens ',' (colorsText colors) = colors.map fun color => toString color.toInt := by
  have hblank : (colors.map fun color => (toString color.toInt).toList) ≠ [[]] := by
    intro hone
    obtain ⟨color, -, hempty⟩ := List.mem_map.1 (hone ▸ List.mem_singleton_self [])
    exact Number.toString_int_ne_empty color.toInt (String.toList_eq_nil_iff.1 hempty)
  have hpieces : ∀ piece ∈ colors.map fun color => (toString color.toInt).toList,
      ',' ∉ piece ∧ trim piece = piece := by
    intro piece hpiece
    obtain ⟨color, -, rfl⟩ := List.mem_map.1 hpiece
    exact ⟨fun hcomma => (isSpace_of_mem_toString hcomma).1 rfl, trim_toString color.toInt⟩
  have htext : (colorsText colors).toList =
      [','].intercalate (colors.map fun color => (toString color.toInt).toList) := by
    rw [colorsText, String.toList_intercalate, List.map_map]
    rfl
  rw [Argument.tokens, htext, Argument.tokenize_intercalate (by decide) hblank hpieces,
    List.map_map]
  exact List.map_congr_left fun color _ => String.ofList_toList

theorem read_int16_toString (color : Int16) :
    ArgType.int16.read (toString color.toInt) = .ok color := by
  have hleast : -32768 ≤ color.toInt := color.le_toInt
  have hmost : color.toInt ≤ 32767 := Int.le_of_lt_add_one color.toInt_lt
  have hread : Number.readWhole (-32768) 32767 (trim (toString color.toInt).toList) =
      some color.toInt := by
    rw [trim_toString]
    exact Number.readWhole_toString (by decide) hleast hmost
  simp only [ArgType.int16, ArgType.scalar, hread, Option.map_some, Int16.ofInt_toInt]

/-- Every list of colours is read back from its text. -/
theorem readList_colorsText (colors : List Int16) :
    (ArgType.list .int16).readList ',' (colorsText colors) = .ok colors := by
  have hgiven :
      (colors.map fun color => toString color.toInt).filter (fun token => !token.isEmpty) =
        colors.map fun color => toString color.toInt := by
    refine List.filter_eq_self.2 fun token htoken => ?_
    obtain ⟨color, -, rfl⟩ := List.mem_map.1 htoken
    simpa using Number.toString_int_ne_empty color.toInt
  have hread : ArgType.int16.read ∘ (fun color : Int16 => toString color.toInt) = pure :=
    funext read_int16_toString
  rw [ArgType.readList_list, tokens_colorsText, hgiven, List.mapM_map, hread]
  exact (List.mapM_pure (f := id)).trans (congrArg Except.ok (List.map_id colors))

end Colors

namespace GroupRequest

/-- A request that asks by itself for what a configuration sets. Expressions of the configuration
come first, and its colours are asked for where the request asks for none. -/
def merged (request : GroupRequest) (configuration : Configuration) : GroupRequest :=
  { request with
    exprs := configuration.exprs ++ request.exprs
    canvasExprs := configuration.canvasExprs ++ request.canvasExprs
    sort := request.sort || configuration.sort
    colors := some (request.colors.getD (colorsText configuration.colors))
    config := none }

theorem palette_merged (request : GroupRequest) (configuration : Configuration) :
    (request.merged configuration).palette {} = request.palette configuration := by
  cases hcolors : request.colors with
  | none =>
      have hread : Palette.read (colorsText configuration.colors) = .ok ⟨configuration.colors⟩ := by
        rw [Palette.read, readList_colorsText]
        rfl
      simp only [palette, merged, hcolors, Option.getD_none, hread]
  | some text => simp only [palette, merged, hcolors, Option.getD_some]

/-- The plan of a request is that of the request which asks for everything by itself: the same
expressions are read in the same order, then the same canvas expressions, then the palette. -/
theorem plan_merged [PatternEngine] (request : GroupRequest) (configuration : Configuration) :
    (request.merged configuration).plan {} = request.plan configuration := by
  have hpalette := request.palette_merged configuration
  simp only [plan, hpalette]
  simp only [merged, List.nil_append, Bool.or_false]

end GroupRequest

section Reading

variable [DocumentReader] {surroundings : Surroundings} {config : Option String}

/-- Documents are found without the configuration around. -/
theorem Collection.addDocuments_config (expressions : List Expression) (collection : Collection)
    (paths : List String) :
    collection.addDocuments { surroundings with config } expressions paths =
      collection.addDocuments surroundings expressions paths := by
  induction paths generalizing collection with
  | nil => rfl
  | cons path paths ih =>
      simp only [addDocuments, ih]
      rfl

theorem GroupPlan.run_config (plan : GroupPlan) (inputs : List String) :
    plan.run { surroundings with config } inputs = plan.run surroundings inputs := by
  simp only [run, Collection.addDocuments_config]

end Reading

section Running

variable [PatternEngine] [DocumentReader] [ConfigurationReader]

/-- A run with a configuration is the run of the merged request without one. -/
theorem GroupRequest.respondWith_eq (request : GroupRequest) (configuration : Configuration)
    (surroundings : Surroundings) :
    request.respondWith configuration surroundings =
      (request.merged configuration).respond { surroundings with config := none } := by
  -- the merged request finds no configuration, so its run starts with its plan
  change _ = ((request.merged configuration).plan {}).andThen fun plan =>
    plan.run { surroundings with config := none } request.inputs
  simp only [plan_merged, GroupPlan.run_config]
  rfl

/-- Requests with one output that find out the same leave the same. -/
theorem Command.runIn_congr (request other : GroupRequest) {tree : FileTree}
    {config config' : Option String} (houtput : request.output = other.output)
    (h : (request.respond { read := tree.read, config }).result =
      (other.respond { read := tree.read, config := config' }).result) :
    ((Command.group request).runIn tree config).result =
        ((Command.group other).runIn tree config').result ∧
      ((Command.group request).runIn tree config).tree =
        ((Command.group other).runIn tree config').tree := by
  have hcomplete : completeGroup request = completeGroup other := by
    funext response
    rw [completeGroup, completeGroup, houtput]
  simp only [runIn, run_group, h, hcomplete]
  cases (other.respond { read := tree.read, config := config' }).result with
  | error error => exact ⟨rfl, rfl⟩
  | ok response =>
      simp only [Except.map]
      cases (completeGroup other response).file with
      | none => exact ⟨rfl, rfl⟩
      | some file =>
          obtain ⟨path, text⟩ := file
          dsimp only
          cases tree.write path text.toUTF8 <;> exact ⟨rfl, rfl⟩

/-- Configurations and requests are interchangeable. Colours are read back from their text, whatever
they are. A run that has read its configuration goes on as the run of the merged request with no
configuration, which asks for the same expressions, sorting and colours by itself: it tells the
same, and comes to the same response or to the same error. So a command with a configuration prints,
writes and fails as the merged one without. -/
theorem GroupRequest.respond_merged :
    (∀ colors : List Int16,
      (ArgType.list .int16).readList ',' (colorsText colors) = .ok colors) ∧
    (∀ (request : GroupRequest) (configuration : Configuration) (surroundings : Surroundings),
      request.respondWith configuration surroundings =
        (request.merged configuration).respond { surroundings with config := none }) ∧
    (∀ (request : GroupRequest) (surroundings : Surroundings),
      request.respond surroundings =
        (request.configuration surroundings).andThen fun configuration =>
          (request.merged configuration).respond { surroundings with config := none }) ∧
    ∀ (request : GroupRequest) (tree : FileTree) (config : Option String)
      (configuration : Configuration),
      (request.configuration { read := tree.read, config }).result = .ok configuration →
      let finished := (Command.group request).runIn tree config
      let merged := (Command.group (request.merged configuration)).runIn tree none
      finished.result = merged.result ∧ finished.tree = merged.tree := by
  have hrespond (request : GroupRequest) (surroundings : Surroundings) :
      request.respond surroundings =
        (request.configuration surroundings).andThen fun configuration =>
          (request.merged configuration).respond { surroundings with config := none } := by
    simp only [← respondWith_eq]
    rfl
  refine ⟨readList_colorsText, respondWith_eq, hrespond, ?_⟩
  intro request tree config configuration hconfiguration
  refine Command.runIn_congr request (request.merged configuration) rfl ?_
  rw [hrespond, Logged.result_andThen, hconfiguration]
  rfl

end Running

/-- A configuration in a file groups, sorts and colours; asked for on the command line, the same is
done without it. -/
theorem GroupRequest.respond_merged_colors :
    let config := "exprs = [\"ng//all/\"]\nsort = true\ncolors = [2, -4]\n".toUTF8
    let document := "[null,[[\"histogram\",\"h\"]]]".toUTF8
    let home := [("hed.toml", Entry.file config), ("a.json", .file document)]
    let tree : FileTree := ⟨[("home", .directory home)], ["home"]⟩
    let request : GroupRequest := { inputs := ["a.json"] }
    let merged : GroupRequest :=
      { exprs := ["ng//all/"], sort := true, colors := some "2,-4", inputs := ["a.json"] }
    let finished := (Command.group request).runIn tree (some "hed.toml")
    let without := (Command.group merged).runIn tree none
    finished.result = without.result ∧ finished.tree = without.tree := by
  intro config document home tree request merged finished without
  obtain ⟨configuration, hconfiguration, hview⟩ := exists_ok_of_toOption
    (request.configuration { read := tree.read, config := some "hed.toml" }).result
    (fun found => (found.exprs, found.canvasExprs, found.sort, found.colors))
    (b := (["ng//all/"], [], true, [2, -4])) (by decide +kernel)
  obtain ⟨exprs, canvasExprs, sort, colors⟩ := configuration
  simp only [Prod.mk.injEq] at hview
  obtain ⟨rfl, rfl, rfl, rfl⟩ := hview
  have hcolors : colorsText [2, -4] = "2,-4" := by decide +kernel
  have hmerged : request.merged ⟨["ng//all/"], [], true, [2, -4]⟩ = merged := by
    simp only [GroupRequest.merged, request, hcolors, merged]
    rfl
  have hrun := respond_merged.2.2.2 request tree (some "hed.toml") _ hconfiguration
  rw [hmerged] at hrun
  exact hrun

end HistEdit
