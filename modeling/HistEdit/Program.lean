import HistEdit.CommandLine
import HistEdit.Configuration.Reader
import HistEdit.Document.Reader
import HistEdit.Expression.Report
import HistEdit.Log.Filter
import HistEdit.Pattern.Machine

/-!
The program as a whole. A command gives a report to print and perhaps a file to write; the file is
written last, so that a failure leaves all files as they were.
-/

namespace HistEdit

open Data (Value)

/-- What a command comes to: what is printed, and the file that is written before. -/
structure Completion where
  printed : Value
  file : Option (String × String) := none

namespace Command

/-- The printed report of a group request; with an output file the response goes there, and only its
summary is printed. -/
def completeGroup (request : GroupRequest) (response : GroupResponse) : Completion :=
  match request.output with
  | none => { printed := response.report }
  | some path =>
    { printed := .table [("output", .text path), ("summary", response.summary.report)]
      file := some (path, response.report.pretty) }

/-- Runs a command up to writing its file. -/
def run [PatternEngine] [DocumentReader] [ConfigurationReader] (surroundings : Surroundings) :
    Command → Logged Completion
  | .group request => (request.respond surroundings).andThen fun response =>
      .ok (completeGroup request response)
  | .parse canvas exprs =>
    let resolution : Resolution := if canvas then .histogramThenCanvas else .histogram
    (Expression.readLogged .builtin resolution exprs).andThen fun expressions =>
      .ok { printed := .table [("expressions", .list (reportAll expressions))] }
  | .functions canvas => .ok { printed := Functions.builtin.report canvas }

end Command

def EditError.report (error : EditError) : Value :=
  .table
    [ ("error", .table
        ([("type", .text error.kind), ("message", .text error.message)] ++
          Report.optional "suggestion" .text error.suggestion?)) ]

/-- What the program prints besides its log, and its exit code. -/
structure Exit where
  stdout : String := ""
  stderr : String := ""
  code : UInt32

/-- Each report ends its line. -/
def Exit.ofResult : Except EditError Value → Exit
  | .ok printed => { stdout := printed.pretty ++ "\n", code := 0 }
  | .error error => { stderr := error.report.pretty ++ "\n", code := 1 }

/-- A command line that is answered without a command. -/
def Exit.ofUsage (usage : UsageError) : Exit :=
  if usage.exitCode = 0 then { stdout := usage.message ++ "\n", code := 0 }
  else { stderr := usage.message ++ "\n", code := UInt32.ofNat usage.exitCode }

/-- A finished command: the events on its way, what it prints or why it failed, and the files
then. -/
structure Finished where
  events : List Event
  result : Except EditError Value
  tree : FileTree

def Finished.exit (finished : Finished) : Exit :=
  .ofResult finished.result

def Command.runIn [PatternEngine] [DocumentReader] [ConfigurationReader] (command : Command)
    (tree : FileTree) (config : Option String) : Finished :=
  let completed := command.run { read := tree.read, config }
  match completed.result with
  | .error error => ⟨completed.events, .error error, tree⟩
  | .ok completion =>
    match completion.file with
    | none => ⟨completed.events, .ok completion.printed, tree⟩
    | some (path, text) =>
      match tree.write path text.toUTF8 with
      | .ok tree => ⟨completed.events, .ok completion.printed, tree⟩
      | .error cause => ⟨completed.events, .error (.file path cause), tree⟩

def Command.sources (config : Option String) : Command → List String
  | .group request =>
    (request.configPath? { read := fun _ => .error .notFound, config }).toList ++ request.inputs
  | _ => []

end HistEdit
