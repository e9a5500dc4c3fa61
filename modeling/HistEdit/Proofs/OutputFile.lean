import HistEdit.Program
import HistEdit.Proofs.FileFrame
import HistEdit.Proofs.OutputOption
import HistEdit.Proofs.Reading

/-!
An output file changes where the report of a group command goes, and nothing else. The text that
would be printed is the contents of the file, but for the end of its line; the summary in it is
printed in its place, and a command that fails fails in the same way and leaves all files as they
were.
-/

namespace HistEdit

section

variable [PatternEngine] [DocumentReader] [ConfigurationReader] {request : GroupRequest}
  {tree : FileTree} {config : Option String}

/-- Where to write makes no difference to what is found out. -/
theorem GroupRequest.respond_output (request : GroupRequest) (output : Option String)
    (surroundings : Surroundings) :
    { request with output }.respond surroundings = request.respond surroundings := rfl

theorem Command.run_group (request : GroupRequest) (surroundings : Surroundings) :
    (Command.group request).run surroundings =
      ⟨(request.respond surroundings).events,
        (request.respond surroundings).result.map (completeGroup request)⟩ := by
  change (request.respond surroundings).andThen _ = _
  unfold Logged.andThen
  cases (request.respond surroundings).result with
  | error error => rfl
  | ok response => simp [Logged.ok, Except.map]

/-- A command that fails leaves all files as they were. -/
theorem Command.runIn_of_error {error : EditError}
    (h : (request.respond { read := tree.read, config }).result = .error error) :
    (Command.group request).runIn tree config =
      ⟨(request.respond { read := tree.read, config }).events, .error error, tree⟩ := by
  simp only [runIn, run_group, h, Except.map]

theorem Command.runIn_printed {response : GroupResponse} (hnone : request.output = none)
    (h : (request.respond { read := tree.read, config }).result = .ok response) :
    (Command.group request).runIn tree config =
      ⟨(request.respond { read := tree.read, config }).events, .ok response.report, tree⟩ := by
  simp only [runIn, run_group, h, Except.map, completeGroup, hnone]

/-- What a command without an output file prints is the report of its response. -/
theorem Command.result_runIn (hnone : request.output = none) :
    ((Command.group request).runIn tree config).result =
      (request.respond { read := tree.read, config }).result.map GroupResponse.report := by
  cases h : (request.respond { read := tree.read, config }).result with
  | error error =>
      rw [runIn_of_error h]
      rfl
  | ok response =>
      rw [runIn_printed hnone h]
      rfl

theorem Command.runIn_written {response : GroupResponse} {path : String} {place : List String}
    (hpath : request.output = some path) (hcreates : tree.Creates path place)
    (h : (request.respond { read := tree.read, config }).result = .ok response) :
    (Command.group request).runIn tree config =
      ⟨(request.respond { read := tree.read, config }).events,
        .ok (.table [("output", .text path), ("summary", response.summary.report)]),
        tree.update place response.report.pretty.toUTF8⟩ := by
  simp only [runIn, run_group, h, Except.map, completeGroup, hpath,
    FileTree.write_of_creates hcreates]

/-- A group command line with an output file does what the same line without it does. When that
prints a report and the end of its line, the file holds exactly the text of this report, the summary
in it is printed, and every other place holds the file or the directory that it held; when that
fails, so does this, with the same error and without a change to any file. -/
theorem Command.runIn_output {front args option : List String} {path : String} {verbosity : Nat}
    {request : GroupRequest}
    (hread : Invocation.read (front ++ "group" :: args) = .ok ⟨verbosity, .group request⟩)
    (hfront : "group" ∉ front) (hnone : request.output = none) (hpath : path ≠ "")
    (hoption : option ∈ outputOptions path) (tree : FileTree) (config : Option String) :
    let writing : Command := .group { request with output := some path }
    let printed := (Command.group request).runIn tree config
    let written := writing.runIn tree config
    Invocation.read (front ++ "group" :: (option ++ args)) = .ok ⟨verbosity, writing⟩ ∧
      (∀ report, printed.result = .ok report →
        printed.exit.stdout = report.pretty ++ "\n" ∧
        ∃ summary, report.get? "summary" = some summary ∧
          ∀ place, tree.Creates path place →
            let shown : Data.Value := .table [("output", .text path), ("summary", summary)]
            written.result = .ok shown ∧ written.exit.stdout = shown.pretty ++ "\n" ∧
            written.events = printed.events ∧
            written.tree.read path = .ok report.pretty.toUTF8 ∧
            (∀ other, other ≠ place →
              (written.tree.find? other).map Entry.contents? =
                (tree.find? other).map Entry.contents?) ∧
            ∀ elsewhere, tree.locate elsewhere ≠ .ok place → ∀ contents,
              written.tree.read elsewhere = .ok contents ↔ tree.read elsewhere = .ok contents) ∧
      ∀ error, printed.result = .error error →
        written.result = .error error ∧ written.exit = printed.exit ∧
        written.events = printed.events ∧ written.tree = tree := by
  intro writing printed written
  have hresult : printed.result =
      (request.respond { read := tree.read, config }).result.map GroupResponse.report :=
    result_runIn hnone
  have hrespond := request.respond_output (some path) { read := tree.read, config }
  refine ⟨Invocation.readFrom_outputOption hfront hpath hoption hread hnone, ?_, ?_⟩
  · intro report hreport
    rw [hresult, map_eq_ok_iff] at hreport
    obtain ⟨response, hresponse, rfl⟩ := hreport
    have hprinted := runIn_printed hnone hresponse
    refine ⟨?_, response.summary.report, rfl, ?_⟩
    · simp only [printed, hprinted, Finished.exit, Exit.ofResult]
    · intro place hcreates shown
      have hgiven : ({ request with output := some path } : GroupRequest).output = some path := rfl
      have hwritten := runIn_written hgiven hcreates (hrespond ▸ hresponse)
      simp only [written, writing, printed, hwritten, hprinted, hrespond, Finished.exit,
        Exit.ofResult, shown, true_and]
      refine ⟨FileTree.read_update_self hcreates, fun other hother => ?_, ?_⟩
      · rw [FileTree.contents?_find?_update hcreates, if_neg hother]
      · exact fun elsewhere hne contents => FileTree.read_update_of_ne hcreates hne
  · intro error herror
    rw [hresult, map_eq_error_iff] at herror
    have hprinted := runIn_of_error herror
    have hfails : (({ request with output := some path } : GroupRequest).respond
        { read := tree.read, config }).result = .error error := hrespond ▸ herror
    have hwritten := runIn_of_error hfails
    simp only [written, writing, printed, hwritten, hprinted, hrespond, Finished.exit, and_self]

end

/-- A document whose histogram is rejected gives a report without groups, here in a directory that
was empty. Where the document is missing, nothing is written. -/
theorem Command.runIn_output_rejected :
    let content := "[null,[[\"histogram\",\"h\"]]]".toUTF8
    let home := [("a.json", Entry.file content)]
    let tree : FileTree := ⟨[("home", .directory home), ("out", .directory [])], ["home"]⟩
    let request : GroupRequest := { exprs := ["sn/x/"], inputs := ["a.json"] }
    let writing : Command := .group { request with output := some "/out/groups.json" }
    let read := Invocation.read ["-v", "group", "-e", "sn/x/", "a.json"]
    read = .ok ⟨1, .group request⟩ ∧
      Invocation.read ["-v", "group", "-o", "/out/groups.json", "-e", "sn/x/", "a.json"] =
        .ok ⟨1, writing⟩ ∧
      (∃ text, ((Command.group request).runIn tree none).exit.stdout = text ++ "\n" ∧
        (writing.runIn tree none).tree.read "/out/groups.json" = .ok text.toUTF8 ∧
        (writing.runIn tree none).tree.read "a.json" = .ok content) ∧
      ∃ error, ((Command.group request).runIn {} none).result = .error error ∧
        (writing.runIn {} none).result = .error error ∧ (writing.runIn {} none).tree = {} := by
  intro content home tree request writing read
  have hread : Invocation.read (["-v"] ++ "group" :: ["-e", "sn/x/", "a.json"]) =
      .ok ⟨1, .group request⟩ := rfl
  have houtput := runIn_output hread (by decide) rfl (show "/out/groups.json" ≠ "" by decide)
    (show ["-o", "/out/groups.json"] ∈ outputOptions "/out/groups.json" by decide)
  obtain ⟨hwriting, hsuccess, -⟩ := houtput tree none
  obtain ⟨-, -, hfailure⟩ := houtput {} none
  refine ⟨hread, hwriting, ?_, ?_⟩
  · obtain ⟨report, hreport, -⟩ := exists_ok_of_toOption
      ((Command.group request).runIn tree none).result (fun _ => ()) (b := ()) (by decide +kernel)
    obtain ⟨hstdout, summary, -, hplace⟩ := hsuccess report hreport
    obtain ⟨-, -, -, hself, -, helsewhere⟩ :=
      hplace ["out", "groups.json"] ⟨by decide +kernel, by decide +kernel, by decide +kernel⟩
    exact ⟨report.pretty, hstdout, hself, (helsewhere "a.json" (by decide +kernel) content).2
      (by decide +kernel)⟩
  · cases herror : ((Command.group request).runIn {} none).result with
    | ok report =>
        have hnone : ((Command.group request).runIn {} none).result.toOption.isNone = true := by
          decide +kernel
        simp [herror, Except.toOption] at hnone
    | error error =>
        obtain ⟨hresult, -, -, htree⟩ := hfailure error herror
        exact ⟨error, rfl, hresult, htree⟩

/-- The file ends with the report, what is printed ends with its line. -/
theorem Command.runIn_output_ends_line :
    let home := [("a.json", Entry.file "{}".toUTF8)]
    let tree : FileTree := ⟨[("home", .directory home)], ["home"]⟩
    let request : GroupRequest := { inputs := ["a.json"] }
    let writing : Command := .group { request with output := some "out.json" }
    let printed := (Command.group request).runIn tree none
    Invocation.read ["group", "a.json"] = .ok ⟨0, .group request⟩ ∧
      Invocation.read ["group", "-o", "out.json", "a.json"] = .ok ⟨0, writing⟩ ∧
      printed.exit.code = 0 ∧ tree.Creates "out.json" ["home", "out.json"] ∧
      (writing.runIn tree none).tree.read "out.json" ≠ .ok printed.exit.stdout.toUTF8 := by
  intro home tree request writing printed
  have hcreates : tree.Creates "out.json" ["home", "out.json"] :=
    ⟨by decide +kernel, by decide +kernel, by decide +kernel⟩
  exact ⟨rfl, rfl, by decide +kernel, hcreates, by decide +kernel⟩

end HistEdit
