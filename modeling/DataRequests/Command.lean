import DataRequests.Build
import DataRequests.Command.Arguments
import DataRequests.Json.Writer
import DataRequests.Request.Written
import DataRequests.Settings
import DataRequests.Workspace

/-!
# The command

A command reads the settings, builds the system of a document, and either writes the system or reports its size. What it
reads comes from a function from paths to what they lead to (`Files`), and what it writes is a value (`Product`), so that the
whole of it is a function; `Invocation.apply` runs it in a workspace, and a run that fails leaves the workspace as it was.
-/

namespace DataRequests.Command

/-- What paths lead to: an error for a path under which nothing is found, and otherwise what comes of reading it. -/
abbrev Files := String → Except PathError FileEntry

/-- Why a command fails. -/
inductive Failure where
  | unreadableSettings (path : String) (error : PathError)
  | malformedSettings (path : String)
  | invalidSetting (key value : String)
  | missingDocument (path : String)
  | unreadableDocument (error : PathError)
  /-- The document gives no system; what is shown before the wording goes with it. -/
  | build (rendered : String) (error : BuildError)
  | unwritableOutput (path : String) (error : PathError)
  deriving DecidableEq, Repr

namespace Failure

/-- The wording of a failure. -/
def message : Failure → String
  | .unreadableSettings path error => "Failed to read file '" ++ path ++ "': " ++ error.message
  | .malformedSettings path => "Failed to parse TOML file '" ++ path ++ "'"
  | .invalidSetting key value => Settings.invalidValueMessage key value
  | .missingDocument path => "File '" ++ path ++ "' not found"
  | .unreadableDocument error => error.message
  | .build _ error => error.message
  | .unwritableOutput path _ => "Could not create '" ++ path ++ "'"

/-- What is reported after the wording: a line break, and the cause if it is another one. Where a text is malformed, nothing
is. -/
def tail : Failure → String
  | .malformedSettings _ | .build _ (.unreadable _) => ""
  | .unreadableDocument error | .unwritableOutput _ error => "\n\nCaused by:\n    " ++ error.message ++ "\n"
  | _ => "\n"

/-- What is shown before the wording. -/
def rendered : Failure → String
  | .build rendered _ => rendered
  | _ => ""

/-- The report of a failure. -/
def report (f : Failure) : String :=
  f.rendered ++ "Error: " ++ f.message ++ f.tail

end Failure

/-! ## Reading -/

/-- The path of the settings when none is given. -/
def defaultSettings : String := "datadef.toml"

/-- The settings in a file. -/
def readSettings (files : Files) (path : String) : Except Failure Defaults :=
  match files path with
  | .error e | .ok (.unreadable e) => .error (.unreadableSettings path e)
  | .ok (.file text) =>
    match Settings.parse text with
    | .ok defaults => .ok defaults
    | .error .malformed => .error (.malformedSettings path)
    | .error (.notATypeName key value) => .error (.invalidSetting key value)

/-- The outermost defaults: the settings in the file that is named, or else in the default one, which may be missing. When it is there, it
has to be readable. -/
def loadSettings (files : Files) : Option String → Except Failure Defaults
  | some path => readSettings files path
  | none =>
    match files defaultSettings with
    | .error _ => .ok {}
    | .ok _ => readSettings files defaultSettings

/-- The system of the document in a file. -/
def buildFile (files : Files) (path : String) (defaults : Defaults) : Except Failure ResolvedSystem :=
  match files path with
  | .error _ => .error (.missingDocument path)
  | .ok (.unreadable e) => .error (.unreadableDocument e)
  | .ok (.file text) =>
    match buildText text defaults with
    | .ok system => .ok system
    | .error e => .error (.build (e.rendered path text) e)

/-! ## Running -/

/-- What a successful command produces. -/
inductive Product where
  | print (text : String)
  | write (path text : String)
  deriving DecidableEq, Repr

/-- The number of requests of a system. -/
def requestCount (system : ResolvedSystem) : Nat :=
  system.interfaces.values.foldl (fun count interface => count + interface.requests.length) 0

/-- What `check` prints about a system. -/
def summary (path : String) (system : ResolvedSystem) : String :=
  "OK " ++ path ++ " (" ++ toString system.interfaces.size ++ " interfaces, " ++ toString (requestCount system) ++
    " requests)\n"

/-- What `resolve` writes of a system. -/
def written (system : ResolvedSystem) : String :=
  system.toJson.indented ++ "\n"

namespace Invocation

/-- The path of the settings: the one given, or else that of the environment. -/
def settingsPath (i : Invocation) (environment : Option String) : Option String :=
  i.settings.or environment

/-- The system that a command is about. -/
def system (i : Invocation) (environment : Option String) (files : Files) : Except Failure ResolvedSystem :=
  match loadSettings files (i.settingsPath environment) with
  | .error f => .error f
  | .ok defaults => buildFile files i.document defaults

/-- What a command makes of a system. -/
def present (i : Invocation) (system : ResolvedSystem) : Product :=
  match i.task with
  | .check => .print (summary i.document system)
  | .resolve none => .print (written system)
  | .resolve (some path) => .write path (written system)

/-- What a command produces. -/
def product (i : Invocation) (environment : Option String) (files : Files) : Except Failure Product :=
  match i.system environment files with
  | .error f => .error f
  | .ok system => .ok (i.present system)

end Invocation

/-- How a command ends. -/
structure Outcome where
  exit : Nat
  stdout : String := ""
  stderr : String := ""
  deriving DecidableEq, Repr

/-- The end of a command that fails. -/
def Outcome.failed (f : Failure) : Outcome :=
  { exit := 1, stderr := f.report }

/-- Runs a command in a workspace. -/
def Invocation.apply (i : Invocation) (environment : Option String) (w : Workspace) : Outcome × Workspace :=
  match i.product environment w.lookup with
  | .error f => (.failed f, w)
  | .ok (.print text) => ({ exit := 0, stdout := text }, w)
  | .ok (.write path text) =>
    match w.write path text with
    | .error e => (.failed (.unwritableOutput path e), w)
    | .ok w => ({ exit := 0 }, w)

/-- What is printed for the version. -/
def version : String := "datadef 0.1.0\n"

/-- What is printed for help. -/
def usage : String :=
  "Resolve data definition declarations into request specs\n\n" ++
    "Usage: datadef [--config <path>] resolve [-o <output>] [declarations]\n" ++
    "       datadef [--config <path>] check [declarations]\n"

/-- Runs a command line in a workspace. -/
def run (arguments : List String) (environment : Option String) (w : Workspace) : Outcome × Workspace :=
  match Intent.ofArguments arguments with
  | .run i => i.apply environment w
  | .showVersion => ({ exit := 0, stdout := version }, w)
  | .showHelp => ({ exit := 0, stdout := usage }, w)
  | .refused => ({ exit := 2 }, w)

end DataRequests.Command
