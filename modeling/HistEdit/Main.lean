import HistEdit.Program

/-!
The program on a real command line: it reads the files that the command names, runs the command,
shows its log, writes its file, and prints its report.
-/

namespace HistEdit

def FileError.ofSystem : IO.Error → FileError
  | .noFileOrDirectory .. => .notFound
  | error => .other (toString error)

/-- Reads files in advance; each path leads to its contents or to the cause of a failure. -/
def readAhead (paths : List String) : IO (List (String × Except FileError ByteArray)) :=
  paths.mapM fun (path : String) => do
    try
      let contents ← IO.FS.readBinFile path
      return (path, .ok contents)
    catch error => return (path, .error (.ofSystem error))

def writeOut (completion : Completion) : IO (Except EditError Data.Value) := do
  match completion.file with
  | none => return .ok completion.printed
  | some (path, text) =>
    try
      IO.FS.writeFile path text
      return .ok completion.printed
    catch error => return .error (.file path (.ofSystem error))

def runCommand (invocation : Invocation) : IO Exit := do
  let config ← IO.getEnv "HED_CONFIG"
  let files ← readAhead (invocation.command.sources config)
  let read (path : String) : Except FileError ByteArray :=
    (files.lookup path).getD (.error .notFound)
  let completed := invocation.command.run { read, config }
  let filter := LogFilter.choose (← IO.getEnv "RUST_LOG") invocation.verbosity
  for line in filter.lines completed.events do
    IO.eprintln line
  match completed.result with
  | .error error => return .ofResult (.error error)
  | .ok completion => return .ofResult (← writeOut completion)

end HistEdit

open HistEdit in
def main (args : List String) : IO UInt32 := do
  let exit ←
    match Invocation.read args with
    | .ok invocation => runCommand invocation
    | .error usage => pure (Exit.ofUsage usage)
  IO.print exit.stdout
  IO.eprint exit.stderr
  return exit.code
