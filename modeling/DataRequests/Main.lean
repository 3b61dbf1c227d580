import DataRequests.Command

/-!
# The program

The outer layer of the command: it reads the files that a command needs, and prints and writes what the command produces.
-/

namespace DataRequests.Command

/-- What goes wrong with a file, by the error of the system. -/
def pathErrorOf : IO.Error → PathError
  | .noFileOrDirectory .. => .missing
  | .inappropriateType _ code _ => if code = 21 then .isDirectory else .notDirectory
  | .invalidArgument _ code details => if code = 36 then .tooLong else .other details
  | .permissionDenied _ code details => if code = 13 then .denied else .other details
  | e => .other (toString e)

/-- Whether something is found under a path. -/
def isFound (path : String) : IO Bool := do
  try
    discard (IO.FS.realPath path)
    return true
  catch _ => return false

/-- What a path leads to. Whether something is found there is asked before it is read. -/
def readEntry (path : String) : IO (Except PathError FileEntry) := do
  if path.isEmpty then return .error .missing
  let found ← isFound path
  try
    let handle ← IO.FS.Handle.mk path .read
    return .ok (Content.ofBytes (← handle.readBinToEnd)).entry
  catch e => return if found then .ok (.unreadable (pathErrorOf e)) else .error (pathErrorOf e)

/-- Prints how a command ends, with a line break at the end of a report, and gives its exit code. -/
def finish (outcome : Outcome) : IO UInt32 := do
  IO.print outcome.stdout
  if outcome.stderr.isEmpty || outcome.stderr.endsWith "\n" then IO.eprint outcome.stderr
  else IO.eprintln outcome.stderr
  return UInt32.ofNat outcome.exit

/-- Runs a command on the files of the system. -/
def runOnFiles (i : Invocation) : IO UInt32 := do
  let environment ← IO.getEnv "DATADEF_CONFIG"
  let paths := [(i.settingsPath environment).getD defaultSettings, i.document]
  let entries ← paths.mapM fun path => return (path, ← readEntry path)
  let files : Files := fun path => ((entries.find? (·.1 = path)).map (·.2)).getD (.error .missing)
  match i.product environment files with
  | .error f => finish (.failed f)
  | .ok (.print text) => finish { exit := 0, stdout := text }
  | .ok (.write path text) =>
    try
      IO.FS.writeFile path text
      finish { exit := 0 }
    catch e => finish (.failed (.unwritableOutput path (pathErrorOf e)))

/-- Runs a command line on the files of the system. -/
def runProgram (arguments : List String) : IO UInt32 :=
  match Intent.ofArguments arguments with
  | .run i => runOnFiles i
  | .showVersion => finish { exit := 0, stdout := version }
  | .showHelp => finish { exit := 0, stdout := usage }
  | .refused => finish { exit := 2 }

end DataRequests.Command

/-- The program. -/
def main (arguments : List String) : IO UInt32 :=
  DataRequests.Command.runProgram arguments
