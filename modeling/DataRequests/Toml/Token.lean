import DataRequests.Json.Token

/-!
# Tokens of a TOML document

Reading takes from the front of a list of characters; a `Reader` gives what it read and the rest, or nothing where the text
is malformed. Blanks separate tokens on a line. In arrays and inline tables line breaks and comments do so too (`skipGaps`).

Texts have four forms: between one or three quotation marks of either kind. Only double quotation marks allow escapes, and
only three marks in a row allow line breaks.
-/

namespace DataRequests.Toml

/-- A step of reading: from a text to what stands at its front and the rest. -/
abbrev Reader (α : Type) := List Char → Option (α × List Char)

/-! ## Blanks and comments -/

/-- Whether a character separates tokens on a line. -/
def isSpace (c : Char) : Bool :=
  c = ' ' || c = '\t'

/-- A text without the spaces at its front. -/
def skipSpaces (cs : List Char) : List Char :=
  cs.dropWhile isSpace

/-- Whether a character may stand in a comment or in a text: no control character but the tab may. -/
def isVisible (c : Char) : Bool :=
  c = '\t' || (0x20 ≤ c.toNat && c.toNat != 0x7F)

/-- A text without the comment at its front. -/
def skipComment : List Char → List Char
  | '#' :: rest => rest.dropWhile isVisible
  | cs => cs

/-- The text after a line break. -/
def readBreak : List Char → Option (List Char)
  | '\n' :: rest => some rest
  | '\r' :: '\n' :: rest => some rest
  | _ => none

/-- The text after the end of a line, which may have a comment. -/
def readLineEnd (cs : List Char) : Option (List Char) :=
  match skipComment (skipSpaces cs) with
  | [] => some []
  | rest => readBreak rest

/-- A text without the spaces, line breaks and comments at its front. `inComment` tells whether the text starts within a
comment. -/
def skipGaps (inComment : Bool) : List Char → Option (List Char)
  | [] => some []
  | '\n' :: rest => skipGaps false rest
  | '\r' :: '\n' :: rest => skipGaps false rest
  | c :: rest =>
    if inComment then (if isVisible c then skipGaps true rest else none)
    else if isSpace c then skipGaps false rest
    else if c = '#' then skipGaps true rest
    else some (c :: rest)

/-! ## Texts -/

/-- The character with a code point. -/
def charOf (n : Nat) : Option Char :=
  if h : n.isValidChar then some (Char.ofNatAux n h) else none

/-- The number written by hexadecimal digits. -/
def hexNumber (digits : List Char) : Option Nat :=
  digits.foldl (fun n c => n.bind fun n => (Json.hexValue? c).map (n * 16 + ·)) (some 0)

/-- The character that an escape stands for, after the reverse solidus. -/
def readEscape : Reader Char
  | 'b' :: rest => some ('\x08', rest)
  | 't' :: rest => some ('\t', rest)
  | 'n' :: rest => some ('\n', rest)
  | 'f' :: rest => some ('\x0c', rest)
  | 'r' :: rest => some ('\r', rest)
  | 'e' :: rest => some ('\x1b', rest)
  | '"' :: rest => some ('"', rest)
  | '\\' :: rest => some ('\\', rest)
  | 'x' :: rest => coded 2 rest
  | 'u' :: rest => coded 4 rest
  | 'U' :: rest => coded 8 rest
  | _ => none
where
  /-- The character whose code point has so many hexadecimal digits. -/
  coded (count : Nat) (cs : List Char) : Option (Char × List Char) :=
    if cs.length < count then none
    else ((hexNumber (cs.take count)).bind charOf).map (·, cs.drop count)

/-- The content of a text between double quotation marks, and the closing mark, in at most `fuel` steps. -/
def readQuoted : Nat → Reader (List Char)
  | 0, _ => none
  | _ + 1, [] => none
  | fuel + 1, c :: rest =>
    if c = '"' then some ([], rest)
    else if c = '\\' then
      match readEscape rest with
      | none => none
      | some (c, rest) => (readQuoted fuel rest).map fun (cs, rest) => (c :: cs, rest)
    else if isVisible c then (readQuoted fuel rest).map fun (cs, rest) => (c :: cs, rest)
    else none

/-- The content of a text between single quotation marks, and the closing mark. -/
def readLiteral : Reader (List Char)
  | [] => none
  | c :: rest =>
    if c = '\'' then some ([], rest)
    else if isVisible c then (readLiteral rest).map fun (cs, rest) => (c :: cs, rest)
    else none

/-- Three quotation marks that close a text, after up to two that belong to it. -/
def readClosing (mark : Char) (cs : List Char) : Option (List Char × List Char) :=
  let marks := (cs.takeWhile (· = mark)).length
  if marks < 3 then none
  else
    let own := min (marks - 3) 2
    some (List.replicate own mark, cs.drop (own + 3))

/-- A text without the spaces and line breaks at its front. -/
def skipIndent : List Char → List Char
  | '\r' :: '\n' :: rest => skipIndent rest
  | c :: rest => if isSpace c || c = '\n' then skipIndent rest else c :: rest
  | [] => []

/-- The text after a reverse solidus at the end of a line: line breaks and spaces up to the next character do not count. -/
def skipFolded (cs : List Char) : Option (List Char) :=
  (readBreak (skipSpaces cs)).map skipIndent

/-- The content of a text of several lines, and the closing marks, in at most `fuel` steps. -/
def readLines (mark : Char) : Nat → Reader (List Char)
  | 0, _ => none
  | _ + 1, [] => none
  | fuel + 1, c :: rest =>
    match readClosing mark (c :: rest) with
    | some closed => some closed
    | none =>
      if c = '\\' ∧ mark = '"' then
        match skipFolded rest with
        | some rest => readLines mark fuel rest
        | none =>
          match readEscape rest with
          | none => none
          | some (c, rest) => (readLines mark fuel rest).map fun (cs, rest) => (c :: cs, rest)
      else if isVisible c || (readBreak (c :: rest)).isSome then
        (readLines mark fuel rest).map fun (cs, rest) => (c :: cs, rest)
      else none

/-- A text without the line break at its front. -/
def skipBreak (cs : List Char) : List Char :=
  (readBreak cs).getD cs

/-- A text on one line. -/
def readText : Reader String
  | '"' :: rest => (readQuoted (rest.length + 1) rest).map fun (cs, rest) => (String.ofList cs, rest)
  | '\'' :: rest => (readLiteral rest).map fun (cs, rest) => (String.ofList cs, rest)
  | _ => none

/-- A text of several lines; a line break after the opening marks does not count. -/
def readLongText : Reader String
  | '"' :: '"' :: '"' :: rest => long '"' rest
  | '\'' :: '\'' :: '\'' :: rest => long '\'' rest
  | _ => none
where
  /-- The content and the closing marks. -/
  long (mark : Char) (rest : List Char) : Option (String × List Char) :=
    (readLines mark (rest.length + 1) (skipBreak rest)).map fun (cs, rest) => (String.ofList cs, rest)

/-! ## Keys -/

/-- Whether a character may stand in a bare key. -/
def isBare (c : Char) : Bool :=
  c.isAlphanum || c = '-' || c = '_'

/-- One part of a key. -/
def readKeyPart (cs : List Char) : Option (String × List Char) :=
  match readText cs with
  | some read => some read
  | none =>
    match cs.takeWhile isBare with
    | [] => none
    | name => some (String.ofList name, cs.dropWhile isBare)

/-- The parts of a key, with dots between them: so many at most. -/
def readParts : Nat → Reader (List String)
  | 0, _ => none
  | limit + 1, cs =>
    match readKeyPart cs with
    | none => none
    | some (part, rest) =>
      match skipSpaces rest with
      | '.' :: rest => (readParts limit (skipSpaces rest)).map fun (parts, rest) => (part :: parts, rest)
      | rest => some ([part], rest)

/-- The number of parts that a key may have. -/
def partLimit : Nat := 80

/-- A key. -/
def readKey : Reader (List String) :=
  readParts partLimit

end DataRequests.Toml
