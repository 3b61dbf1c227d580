import DataRequests.Json.Number
import DataRequests.Json.ReadError
import DataRequests.Text.Position

/-!
# Tokens of a JSON text

A text is a list of characters, and reading takes from its front: a `Reader` gives what it read and the rest, or the first
thing that is wrong. Strings, numbers and words are read here, each in two ways: with its value, and, where a member is
passed over, only as far as its form.
-/

namespace DataRequests.Json

/-- A step of reading: from a text to what stands at its front and the rest. -/
abbrev Reader (α : Type) := List Char → Except ReadError (α × List Char)

/-- The characters that may stand between tokens. -/
def isBlank (c : Char) : Bool :=
  c = ' ' || c = '\n' || c = '\t' || c = '\r'

/-- A text without the blanks at its front. -/
def skipBlanks : List Char → List Char
  | [] => []
  | c :: rest => if isBlank c then skipBlanks rest else c :: rest

/-! ## Strings -/

/-- The value of a hexadecimal digit. -/
def hexValue? (c : Char) : Option Nat :=
  if '0' ≤ c ∧ c ≤ '9' then some (c.toNat - 48)
  else if 'a' ≤ c ∧ c ≤ 'f' then some (c.toNat - 87)
  else if 'A' ≤ c ∧ c ≤ 'F' then some (c.toNat - 55)
  else none

/-- The number written by four hexadecimal digits. A text that has not even four bytes left has ended in a string. -/
def readHex : Reader Nat := fun cs =>
  let failed : ReadError := if Text.byteLength (cs.take 4) < 4 then .endInString else .invalidEscape
  match cs with
  | a :: b :: c :: d :: rest =>
    match hexValue? a, hexValue? b, hexValue? c, hexValue? d with
    | some a, some b, some c, some d => .ok (((a * 16 + b) * 16 + c) * 16 + d, rest)
    | _, _, _, _ => .error failed
  | _ => .error failed

/-- Whether a code unit is the first half of a pair. -/
def isLeading (unit : Nat) : Bool :=
  0xD800 ≤ unit && unit ≤ 0xDBFF

/-- Whether a code unit is the second half of a pair. -/
def isTrailing (unit : Nat) : Bool :=
  0xDC00 ≤ unit && unit ≤ 0xDFFF

/-- The character that four hexadecimal digits name, or a pair of such escapes. -/
def readCodePoint : Reader Char := fun cs =>
  match readHex cs with
  | .error e => .error e
  | .ok (first, rest) =>
    if isTrailing first then .error .loneSurrogate
    else if isLeading first then
      match rest with
      | [] | ['\\'] => .error .endInString
      | '\\' :: 'u' :: rest =>
        match readHex rest with
        | .error e => .error e
        | .ok (second, rest) =>
          if isTrailing second then .ok (Char.ofNat (0x10000 + (first - 0xD800) * 1024 + (second - 0xDC00)), rest)
          else .error .loneSurrogate
      | _ => .error .unfinishedEscape
    else .ok (Char.ofNat first, rest)

/-- The character that a letter after a reverse solidus stands for. -/
def plainEscape? (c : Char) : Option Char :=
  if c = '"' then some '"'
  else if c = '\\' then some '\\'
  else if c = '/' then some '/'
  else if c = 'b' then some '\x08'
  else if c = 'f' then some '\x0c'
  else if c = 'n' then some '\n'
  else if c = 'r' then some '\r'
  else if c = 't' then some '\t'
  else none

/-- The character that an escape names; the reverse solidus has been read. -/
def readEscape : Reader Char
  | [] => .error .endInString
  | c :: rest =>
    if c = 'u' then readCodePoint rest
    else
      match plainEscape? c with
      | some value => .ok (value, rest)
      | none => .error .invalidEscape

/-- An escape that is passed over: its digits are looked at, not the character they name. -/
def skipEscape : Reader Unit
  | [] => .error .endInString
  | c :: rest =>
    if c = 'u' then (readHex rest).map fun (_, rest) => ((), rest)
    else if (plainEscape? c).isSome then .ok ((), rest)
    else .error .invalidEscape

/-- The characters of a string up to its closing quotation mark, in at most `fuel` steps. -/
def readChars : Nat → Reader (List Char)
  | 0, _ => .error .endInString
  | _ + 1, [] => .error .endInString
  | fuel + 1, c :: rest =>
    if c = '"' then .ok ([], rest)
    else if c = '\\' then
      match readEscape rest with
      | .error e => .error e
      | .ok (value, rest) => (readChars fuel rest).map fun (cs, rest) => (value :: cs, rest)
    else if c.toNat < 32 then .error .controlCharacter
    else (readChars fuel rest).map fun (cs, rest) => (c :: cs, rest)

/-- A string whose opening quotation mark has been read. -/
def readString : Reader String := fun cs =>
  (readChars (cs.length + 1) cs).map fun (value, rest) => (String.ofList value, rest)

/-- Passes over the characters of a string up to its closing quotation mark, in at most `fuel` steps. -/
def skipChars : Nat → Reader Unit
  | 0, _ => .error .endInString
  | _ + 1, [] => .error .endInString
  | fuel + 1, c :: rest =>
    if c = '"' then .ok ((), rest)
    else if c = '\\' then
      match skipEscape rest with
      | .error e => .error e
      | .ok (_, rest) => skipChars fuel rest
    else if c.toNat < 32 then .error .controlCharacter
    else skipChars fuel rest

/-- Passes over a string whose opening quotation mark has been read. -/
def skipString : Reader Unit := fun cs =>
  skipChars (cs.length + 1) cs

/-! ## Words -/

/-- The rest of a word, whose first letter has been read. -/
def readWord : List Char → Reader Unit
  | [], rest => .ok ((), rest)
  | _ :: _, [] => .error .endInValue
  | expected :: word, c :: rest => if c = expected then readWord word rest else .error .expectedWord

/-! ## Numbers -/

/-- The value of a decimal digit. -/
def digitValue (c : Char) : Nat :=
  c.toNat - 48

/-- The digits at the front of a text, and the rest. -/
def spanDigits : List Char → List Char × List Char
  | [] => ([], [])
  | c :: rest =>
    if c.isDigit then
      let (digits, rest) := spanDigits rest
      (c :: digits, rest)
    else ([], c :: rest)

/-- What has been kept of the digits of a number: those that fit 64 bits, the power of ten they stand for, and whether a
digit has been left out. -/
structure Digits where
  significand : Nat
  exponent : Int
  full : Bool

/-- One more digit in front of the point: a digit left out still counts for the exponent. -/
def Digits.pushWhole (d : Digits) (c : Char) : Digits :=
  if d.full || d.significand * 10 + digitValue c > maxWord then { d with exponent := d.exponent + 1, full := true }
  else { d with significand := d.significand * 10 + digitValue c }

/-- One more digit after the point. -/
def Digits.pushPlace (d : Digits) (c : Char) : Digits :=
  if d.full || d.significand * 10 + digitValue c > maxWord then { d with full := true }
  else { d with significand := d.significand * 10 + digitValue c, exponent := d.exponent - 1 }

/-- The double that the digits of a number stand for. -/
def Digits.toNumber (negative : Bool) (d : Digits) : Except ReadError Number :=
  match double? d.significand d.exponent with
  | none => .error .numberOutOfRange
  | some value => .ok (.double (Text.ofDouble (if negative then -value else value)))

/-- The exponent of a number, whose letter has been read, and the double that results. -/
def readExponent (negative : Bool) (d : Digits) : Reader Number := fun cs =>
  let (down, cs) := match cs with
    | '+' :: rest => (false, rest)
    | '-' :: rest => (true, rest)
    | _ => (false, cs)
  match cs with
  | [] => .error .endInValue
  | c :: _ =>
    if c.isDigit then
      let (digits, rest) := spanDigits cs
      let power : Int := digits.foldl (fun n c => n * 10 + digitValue c) 0
      (Digits.toNumber negative { d with exponent := d.exponent + (if down then -power else power) }).map (·, rest)
    else .error .invalidNumber

/-- The places of a number, whose point has been read, and what follows them. -/
def readPlaces (negative : Bool) (d : Digits) : Reader Number := fun cs =>
  match spanDigits cs with
  | ([], []) => .error .endInValue
  | ([], _) => .error .invalidNumber
  | (places, rest) =>
    let d := places.foldl Digits.pushPlace { d with full := false }
    match rest with
    | 'e' :: rest | 'E' :: rest => readExponent negative d rest
    | _ => (d.toNumber negative).map (·, rest)

/-- A number, whose minus sign, if it has one, has been read. -/
def readNumber (negative : Bool) : Reader Number
  | [] => .error .endInValue
  | c :: rest =>
    if ¬ c.isDigit then .error .invalidNumber
    else
      let (more, rest) := spanDigits rest
      if c = '0' ∧ more ≠ [] then .error .invalidNumber
      else
        let d := more.foldl Digits.pushWhole ⟨digitValue c, 0, false⟩
        match rest with
        | '.' :: rest => readPlaces negative d rest
        | 'e' :: rest | 'E' :: rest => readExponent negative d rest
        | _ =>
          if d.full then (d.toNumber negative).map (·, rest)
          else if negative then
            if d.significand = 0 ∨ d.significand > 0x8000000000000000 then (d.toNumber negative).map (·, rest)
            else .ok (.integer (-d.significand), rest)
          else .ok (.integer d.significand, rest)

/-- Passes over the exponent of a number, whose letter has been read. -/
def skipExponent : Reader Unit := fun cs =>
  let cs := match cs with
    | '+' :: rest | '-' :: rest => rest
    | _ => cs
  match spanDigits cs with
  | ([], _) => .error .invalidNumber
  | (_, rest) => .ok ((), rest)

/-- Passes over a number, whose minus sign, if it has one, has been read. -/
def skipNumber : Reader Unit := fun cs =>
  match spanDigits cs with
  | ([], _) => .error .invalidNumber
  | (c :: more, rest) =>
    if c = '0' ∧ more ≠ [] then .error .invalidNumber
    else
      match rest with
      | '.' :: rest =>
        match spanDigits rest with
        | ([], _) => .error .invalidNumber
        | (_, 'e' :: rest) | (_, 'E' :: rest) => skipExponent rest
        | (_, rest) => .ok ((), rest)
      | 'e' :: rest | 'E' :: rest => skipExponent rest
      | _ => .ok ((), rest)

/-! ## Values of any form -/

/-- Passes over the key of a member and its colon. -/
def skipKey : Reader Unit := fun cs =>
  match skipBlanks cs with
  | [] => .error .endInObject
  | c :: rest =>
    if c = '"' then
      match skipString rest with
      | .error e => .error e
      | .ok (_, rest) =>
        match skipBlanks rest with
        | [] => .error .endInObject
        | c :: rest => if c = ':' then .ok ((), rest) else .error .expectedColon
    else .error .keyMustBeString

mutual

/-- Passes over a value, in at most `fuel` steps. -/
def skipNested : Nat → Reader Unit
  | 0, _ => .error .endInValue
  | fuel + 1, cs =>
    match skipBlanks cs with
    | [] => .error .endInValue
    | c :: rest =>
      if c = 'n' then readWord ['u', 'l', 'l'] rest
      else if c = 't' then readWord ['r', 'u', 'e'] rest
      else if c = 'f' then readWord ['a', 'l', 's', 'e'] rest
      else if c = '-' then skipNumber rest
      else if c.isDigit then skipNumber (c :: rest)
      else if c = '"' then skipString rest
      else if c = '[' then
        match skipBlanks rest with
        | [] => .error .endInList
        | c :: rest => if c = ']' then .ok ((), rest) else skipItems fuel (c :: rest)
      else if c = '\x7b' then
        match skipBlanks rest with
        | [] => .error .endInObject
        | c :: rest => if c = '\x7d' then .ok ((), rest) else skipMembers fuel (c :: rest)
      else .error .expectedValue

/-- Passes over the items of an array, of which there is at least one more, and its closing bracket. -/
def skipItems : Nat → Reader Unit
  | 0, _ => .error .endInValue
  | fuel + 1, cs =>
    match skipNested fuel cs with
    | .error e => .error e
    | .ok (_, rest) =>
      match skipBlanks rest with
      | [] => .error .endInList
      | c :: rest =>
        if c = ',' then skipItems fuel rest
        else if c = ']' then .ok ((), rest)
        else .error .expectedListCommaOrEnd

/-- Passes over the members of an object, of which there is at least one more, and its closing brace. -/
def skipMembers : Nat → Reader Unit
  | 0, _ => .error .endInValue
  | fuel + 1, cs =>
    match skipKey cs with
    | .error e => .error e
    | .ok (_, rest) =>
      match skipNested fuel rest with
      | .error e => .error e
      | .ok (_, rest) =>
        match skipBlanks rest with
        | [] => .error .endInObject
        | c :: rest =>
          if c = ',' then skipMembers fuel rest
          else if c = '\x7d' then .ok ((), rest)
          else .error .expectedObjectCommaOrEnd

end

/-- Passes over a value of any form and depth. Every second step at least takes a character, which bounds their number. -/
def skipValue : Reader Unit := fun cs =>
  skipNested (2 * cs.length + 2) cs

end DataRequests.Json
