import DataRequests.Toml.Scalar
import DataRequests.Toml.Token

/-!
# Reading TOML documents

A document is read line by line (`Toml.parse`), as the list of its statements: the headers that open tables and the entries
that give keys a value. What the statements amount to is left to the reader of a document of a certain kind. Of values only
texts are ever needed, so that numbers, booleans, dates and times are one constructor.

Arrays and inline tables may stand in each other up to a limit; `readUnder` is structural in the number of levels that are
still free. Within an inline table no key may be given twice, and none may be a part of the way to another.
-/

namespace DataRequests

/-- A value of a TOML document. -/
inductive Toml where
  | text (value : String)
  /-- A number, a boolean, a date or a time. -/
  | scalar
  | array (items : List Toml)
  /-- An inline table: keys, which may have several parts, and values. -/
  | table (entries : List (List String × Toml))
  deriving Repr, Inhabited

/-- A statement of a TOML document. -/
inductive Toml.Statement where
  | header (path : List String)
  /-- The header of a further table of an array of tables. -/
  | arrayHeader (path : List String)
  | entry (path : List String) (value : Toml)
  deriving Repr, Inhabited

namespace Toml

/-! ## Values -/

/-- The items of an array and its closing bracket, in at most `fuel` steps. -/
def readItems (item : Reader Toml) : Nat → Reader (List Toml)
  | 0, _ => none
  | fuel + 1, cs =>
    match skipGaps false cs with
    | none => none
    | some (']' :: rest) => some ([], rest)
    | some start =>
      match item start with
      | none => none
      | some (value, rest) =>
        match skipGaps false rest with
        | some (',' :: rest) => (readItems item fuel rest).map fun (values, rest) => (value :: values, rest)
        | some (']' :: rest) => some ([value], rest)
        | _ => none

/-- A key, the equals sign and a value. -/
def readEntry (item : Reader Toml) : Reader (List String × Toml) := fun cs =>
  match readKey cs with
  | some (path, '=' :: rest) => (item (skipSpaces rest)).map fun (value, rest) => ((path, value), rest)
  | _ => none

/-- The entries of an inline table and its closing brace, in at most `fuel` steps. -/
def readEntries (item : Reader Toml) : Nat → Reader (List (List String × Toml))
  | 0, _ => none
  | fuel + 1, cs =>
    match skipGaps false cs with
    | none => none
    | some ('\x7d' :: rest) => some ([], rest)
    | some start =>
      match readEntry item start with
      | none => none
      | some (entry, rest) =>
        match skipGaps false rest with
        | some (',' :: rest) => (readEntries item fuel rest).map fun (entries, rest) => (entry :: entries, rest)
        | some ('\x7d' :: rest) => some ([entry], rest)
        | _ => none

/-- Whether no path leads to another one or through it. -/
def areApart : List (List String) → Bool
  | [] => true
  | path :: rest => rest.all (fun other => !path.isPrefixOf other && !other.isPrefixOf path) && areApart rest

/-- Whether a bare scalar ends in front of a character. -/
def isSeparator (c : Char) : Bool :=
  "=,[]\x7b\x7d \t#\r\n".contains c

/-- The text up to the next separator, and the rest. -/
def splitWord (cs : List Char) : List Char × List Char :=
  (cs.takeWhile fun c => !isSeparator c, cs.dropWhile fun c => !isSeparator c)

/-- A number, a boolean, a date or a time. A space may separate a date from a time. -/
def readScalar : Reader Toml := fun cs =>
  let (word, rest) := splitWord cs
  match isDate word, rest with
  | true, ' ' :: c :: rest =>
    if c.isDigit then
      let (time, rest) := splitWord (c :: rest)
      check (word ++ ' ' :: time) rest
    else some (.scalar, ' ' :: c :: rest)
  | _, rest => check word rest
where
  /-- A scalar of a known text. -/
  check (word rest : List Char) : Option (Toml × List Char) :=
    if isScalar word then some (.scalar, rest) else none

/-- A value, where the values in arrays and inline tables are read by `item`; with none, none may be entered any more. -/
def readValue (item : Option (Reader Toml)) : Reader Toml := fun cs =>
  match readLongText cs with
  | some (value, rest) => some (.text value, rest)
  | none =>
    match cs with
    | '[' :: rest =>
      item.bind fun item => (readItems item (rest.length + 1) rest).map fun (values, rest) => (.array values, rest)
    | '\x7b' :: rest =>
      item.bind fun item =>
        match readEntries item (rest.length + 1) rest with
        | some (entries, rest) => if areApart (entries.map (·.1)) then some (.table entries, rest) else none
        | none => none
    | c :: _ =>
      if c = '"' ∨ c = '\'' then (readText cs).map fun (value, rest) => (.text value, rest) else readScalar cs
    | [] => none

/-- Reads a value where so many levels of arrays and inline tables are still free. -/
def readUnder : Nat → Reader Toml
  | 0 => readValue none
  | level + 1 => readValue (some (readUnder level))

/-- The number of arrays and inline tables that may stand in each other. -/
def depthLimit : Nat := 80

/-! ## Documents -/

/-- The key of a header, after its opening brackets, and the closing ones. -/
def readHeader (closing : List Char) (cs : List Char) : Option (List String × List Char) :=
  match readKey (skipSpaces cs) with
  | some (path, rest) => if closing.isPrefixOf rest then some (path, rest.drop closing.length) else none
  | none => none

/-- A statement, at the start of its line. -/
def readStatement : Reader Statement
  | '[' :: '[' :: rest => (readHeader [']', ']'] rest).map fun (path, rest) => (.arrayHeader path, rest)
  | '[' :: rest => (readHeader [']'] rest).map fun (path, rest) => (.header path, rest)
  | cs => (readEntry (readUnder depthLimit) cs).map fun ((path, value), rest) => (.entry path value, rest)

/-- The statements of a document, in at most `fuel` lines. -/
def readStatements : Nat → List Char → Option (List Statement)
  | 0, _ => none
  | fuel + 1, cs =>
    match skipGaps false cs with
    | none => none
    | some [] => some []
    | some start =>
      match readStatement start with
      | none => none
      | some (statement, rest) =>
        match readLineEnd rest with
        | none => none
        | some rest => (readStatements fuel rest).map (statement :: ·)

/-- Reads a document from its text, which may start with a byte order mark. -/
def parse (text : String) : Option (List Statement) :=
  let cs := match text.toList with
    | '\ufeff' :: rest => rest
    | cs => cs
  readStatements (cs.length + 1) cs

end Toml

end DataRequests
