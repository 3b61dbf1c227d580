/-!
# Arguments of the command line

A command line names a task and, before or after that name, options. An option with a value takes the rest of its own
argument or the next one, which must not look like an option itself. No option is given twice on one side of the name of the
task, and no value is empty. After `--` every argument is the path of a document.
-/

namespace DataRequests.Command

/-- What a command does with a document. -/
inductive Task where
  /-- Writes the resolved system, to a file if one is given. -/
  | resolve (output : Option String)
  | check
  deriving DecidableEq, Repr

/-- A complete command. -/
structure Invocation where
  task : Task
  /-- The path of the document. -/
  document : String
  /-- The path of the settings, if it is given. -/
  settings : Option String
  deriving DecidableEq, Repr

/-- What a command line asks for. -/
inductive Intent where
  | run (invocation : Invocation)
  | showVersion
  | showHelp
  /-- The arguments make no sense. -/
  | refused
  deriving DecidableEq, Repr

/-- The options with a value. -/
inductive OptionName where
  | settings
  | output
  deriving DecidableEq, Repr

/-- The parts of a command line: that before the name of the task, and that of each task. -/
inductive Level where
  | general
  | resolve
  | check
  deriving DecidableEq, Repr

/-- One argument. -/
inductive Argument where
  | valued (name : OptionName) (value : String)
  /-- An option whose value is the next argument. -/
  | pending (name : OptionName)
  | version
  | help
  | separator
  | word (text : String)
  | unknown
  deriving DecidableEq, Repr

/-- The option with a long name. -/
def OptionName.ofLong? (level : Level) (name : String) : Option OptionName :=
  if name = "config" then some .settings
  else if name = "output" ∧ level = .resolve then some .output
  else none

/-- The long name and the value that an argument gives after two hyphens. -/
def splitValue (cs : List Char) : String × Option String :=
  match cs.dropWhile (· ≠ '=') with
  | [] => (String.ofList cs, none)
  | _ :: value => (String.ofList (cs.takeWhile (· ≠ '=')), some (String.ofList value))

/-- An argument that starts with two hyphens. -/
def Argument.ofLong (level : Level) (cs : List Char) : Argument :=
  match splitValue cs with
  | ("", none) => .separator
  | ("help", none) => .help
  | (name, value) =>
    if name = "version" ∧ value = none ∧ level = .general then .version
    else
      match OptionName.ofLong? level name, value with
      | some option, some value => .valued option value
      | some option, none => .pending option
      | none, _ => .unknown

/-- An argument that starts with one hyphen: the value follows the letter at once or after an equals sign. -/
def Argument.ofShort (level : Level) : List Char → Argument
  | 'h' :: _ => .help
  | 'V' :: _ => if level = .general then .version else .unknown
  | 'o' :: rest =>
    if level ≠ .resolve then .unknown
    else
      match rest with
      | [] => .pending .output
      | '=' :: value => .valued .output (String.ofList value)
      | value => .valued .output (String.ofList value)
  | _ => .unknown

/-- What an argument is. A hyphen alone is a word. -/
def Argument.ofText (level : Level) (text : String) : Argument :=
  match text.toList with
  | '-' :: '-' :: rest => .ofLong level rest
  | '-' :: c :: rest => .ofShort level (c :: rest)
  | _ => .word text

/-- The options and paths of one part of a command line. -/
structure Given where
  settings : Option String := none
  output : Option String := none
  document : Option String := none
  deriving DecidableEq, Repr

/-- The value, if there is none yet and it is not empty. -/
def setOnce (old : Option String) (value : String) : Option (Option String) :=
  if old.isSome || value.isEmpty then none else some (some value)

namespace Given

/-- With the value of an option. -/
def withOption (g : Given) (name : OptionName) (value : String) : Option Given :=
  match name with
  | .settings => (setOnce g.settings value).map fun settings => { g with settings }
  | .output => (setOnce g.output value).map fun output => { g with output }

/-- With the path of the document. -/
def withDocument (g : Given) (path : String) : Option Given :=
  (setOnce g.document path).map fun document => { g with document }

end Given

/-- Whether an argument can be the value of the option before it. -/
def isValue (text : String) : Bool :=
  match text.toList with
  | '-' :: _ :: _ => false
  | _ => true

/-- The document that is taken when none is named. -/
def defaultDocument : String := "declarations.json"

/-- The command for a task, whose name stands between two parts of a command line. -/
def Given.invocation (before after : Given) (level : Level) : Invocation where
  task := if level = .check then .check else .resolve after.output
  document := after.document.getD defaultDocument
  settings := after.settings.or before.settings

/-- The paths that stand after the separator. -/
def readPaths (g : Given) : List String → Option Given
  | [] => some g
  | path :: rest => (g.withDocument path).bind (readPaths · rest)

/-- The part of a command line after the name of a task. -/
def readTask (before : Given) (level : Level) (g : Given) : List String → Intent
  | [] => .run (before.invocation g level)
  | text :: rest =>
    let go : Option Given → Intent
      | some g => readTask before level g rest
      | none => .refused
    match Argument.ofText level text with
    | .valued name value => go (g.withOption name value)
    | .pending name =>
      match rest with
      | [] => .refused
      | value :: rest =>
        match isValue value, g.withOption name value with
        | true, some g => readTask before level g rest
        | _, _ => .refused
    | .word path => go (g.withDocument path)
    | .help => .showHelp
    | .version => .showVersion
    | .separator =>
      match readPaths g rest with
      | some g => .run (before.invocation g level)
      | none => .refused
    | .unknown => .refused

/-- What a command line asks for. `g` holds the options that have been read. -/
def readGeneral (g : Given) : List String → Intent
  | [] => .refused
  | text :: rest =>
    match Argument.ofText .general text with
    | .valued name value =>
      match g.withOption name value with
      | some g => readGeneral g rest
      | none => .refused
    | .pending name =>
      match rest with
      | [] => .refused
      | value :: rest =>
        match isValue value, g.withOption name value with
        | true, some g => readGeneral g rest
        | _, _ => .refused
    | .word "resolve" => readTask g .resolve {} rest
    | .word "check" => readTask g .check {} rest
    | .word _ => .refused
    | .help => .showHelp
    | .version => .showVersion
    | .separator => .refused
    | .unknown => .refused

/-- What a command line asks for. -/
def Intent.ofArguments (arguments : List String) : Intent :=
  readGeneral {} arguments

end DataRequests.Command
