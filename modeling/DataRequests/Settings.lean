import DataRequests.Defaults
import DataRequests.Text.Range
import DataRequests.Toml.Reader

/-!
# Settings

The settings of a project are a TOML document with one table, `defaults`, which sets the outermost layer of defaults. The
table may be given under its header, by keys of two parts, or as one value, and that value may also be a list with the three
fields by position. Every value has to look like the name of a type: it is not empty and has no blanks.
-/

namespace DataRequests

/-- Why settings cannot be read. -/
inductive SettingsError where
  /-- The document is malformed, or something stands in it that is no setting. -/
  | malformed
  /-- A value is not the name of a type. -/
  | notATypeName (key value : String)
  deriving DecidableEq, Repr

namespace Settings

/-- The keys of the settings, in order. -/
def keys : List String :=
  ["response-transform", "error-transform", "refresh-strategy"]

/-- An entry of a table that is open. -/
def entry? : Toml.Statement → Option (List String × Toml)
  | .entry path value => some (path, value)
  | _ => none

/-- An entry of the table `defaults`, by a key that names the table. -/
def dottedEntry? : Toml.Statement → Option (List String × Toml)
  | .entry ("defaults" :: path) value => some (path, value)
  | _ => none

/-- The entries of the table `defaults`, however it is given. -/
def entries? : List Toml.Statement → Option (List (List String × Toml))
  | [.entry ["defaults"] (.table entries)] => some entries
  | [.entry ["defaults"] (.array (a :: b :: c :: _))] => some ((keys.map ([·])).zip [a, b, c])
  | .header ["defaults"] :: rest => rest.mapM entry?
  | statements => statements.mapM dottedEntry?

/-- A setting: a known key with a text. -/
def setting? : List String × Toml → Option (String × String)
  | ([key], .text value) => if key ∈ keys then some (key, value) else none
  | _ => none

/-- The settings that a document holds. No key is given twice. -/
def settings? (statements : List Toml.Statement) : Option (List (String × String)) :=
  match (entries? statements).bind (·.mapM setting?) with
  | some settings => if (settings.map (·.1)).Nodup then some settings else none
  | none => none

/-- The value of a key. -/
def value? (settings : List (String × String)) (key : String) : Option String :=
  (settings.find? (·.1 = key)).map (·.2)

/-- Whether a value can be the name of a type. -/
def isTypeName (value : String) : Bool :=
  !value.isEmpty && !value.toList.any Text.isBlank

/-- The error of the first key, in order, whose value is not the name of a type. -/
def valueError? (settings : List (String × String)) : Option SettingsError :=
  keys.findSome? fun key =>
    match value? settings key with
    | some value => if isTypeName value then none else some (.notATypeName key value)
    | none => none

/-- The defaults that settings give. -/
def defaultsOf (settings : List (String × String)) : Defaults where
  responseTransform := value? settings "response-transform"
  errorTransform := value? settings "error-transform"
  refreshStrategy := value? settings "refresh-strategy"

/-- Reads settings from their text. -/
def parse (text : String) : Except SettingsError Defaults :=
  match (Toml.parse text).bind settings? with
  | none => .error .malformed
  | some settings =>
    match valueError? settings with
    | some e => .error e
    | none => .ok (defaultsOf settings)

/-- The wording of a value that is not the name of a type. -/
def invalidValueMessage (key value : String) : String :=
  "Invalid value for '" ++ key ++ "': expected a type name, found '" ++ value ++ "'"

end Settings

end DataRequests
