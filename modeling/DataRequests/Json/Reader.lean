import DataRequests.Json.Shape
import DataRequests.Json.Token

/-!
# Reading a document of a given shape

A text is read in one pass, and the first thing that is wrong with it, in the order of the text, is what is reported:
whether it is a malformed token, a key that the schema does not know, or a value of another type.

Containers may stand in each other up to a limit (`depthLimit`); `readUnder` is structural in the number of levels that are
still free. The values of members that are passed over do not count. Repetition inside a container is bounded by the length
of the text.
-/

namespace DataRequests.Json

variable {ν : Type}

/-! ## Between the items of containers -/

/-- What is wrong with a value, where another type is expected: the value itself may be malformed. -/
def mismatch (expected : String) (cs : List Char) : ReadError :=
  let found (kind : Found) : Except ReadError (Unit × List Char) → ReadError
    | .error e => e
    | .ok _ => .invalidType kind expected
  let number : Except ReadError (Number × List Char) → ReadError
    | .error e => e
    | .ok (.integer value, _) => .invalidType (.integer value) expected
    | .ok (.double text, _) => .invalidType (.double text) expected
  match cs with
  | [] => .endInValue
  | c :: rest =>
    if c = 'n' then found .null (readWord ['u', 'l', 'l'] rest)
    else if c = 't' then found (.boolean true) (readWord ['r', 'u', 'e'] rest)
    else if c = 'f' then found (.boolean false) (readWord ['a', 'l', 's', 'e'] rest)
    else if c = '-' then number (readNumber true rest)
    else if c.isDigit then number (readNumber false (c :: rest))
    else if c = '"' then
      match readString rest with
      | .error e => e
      | .ok (value, _) => .invalidType (.string value) expected
    else if c = '[' then .invalidType .sequence expected
    else if c = '\x7b' then .invalidType .map expected
    else .expectedValue

/-- Goes to the next item of an array: where it starts, or none before the closing bracket. -/
def nextItem (first : Bool) (cs : List Char) : Except ReadError (Option (List Char)) :=
  match skipBlanks cs with
  | [] => .error .endInList
  | c :: rest =>
    if c = ']' then .ok none
    else if first then .ok (some (c :: rest))
    else if c = ',' then
      match skipBlanks rest with
      | [] => .error .endInValue
      | c :: rest => if c = ']' then .error .trailingComma else .ok (some (c :: rest))
    else .error .expectedListCommaOrEnd

/-- The closing bracket of an array all of whose items have been read. -/
def closeList (cs : List Char) : Except ReadError (List Char) :=
  match skipBlanks cs with
  | [] => .error .endInList
  | c :: rest =>
    if c = ']' then .ok rest
    else if c = ',' then
      match skipBlanks rest with
      | ']' :: _ => .error .trailingComma
      | _ => .error .trailingCharacters
    else .error .trailingCharacters

/-- Reads the next key of an object, or nothing, with the text after the closing brace. -/
def nextKey (first : Bool) (cs : List Char) : Except ReadError (Option String × List Char) :=
  match skipBlanks cs with
  | [] => .error .endInObject
  | c :: rest =>
    if c = '\x7d' then .ok (none, rest)
    else if first then key (c :: rest)
    else if c = ',' then
      match skipBlanks rest with
      | [] => .error .endInValue
      | c :: rest => if c = '\x7d' then .error .trailingComma else key (c :: rest)
    else .error .expectedObjectCommaOrEnd
where
  /-- The key itself. -/
  key : List Char → Except ReadError (Option String × List Char)
    | [] => .error .endInObject
    | c :: rest => if c = '"' then (readString rest).map fun (name, rest) => (some name, rest) else .error .keyMustBeString

/-- The colon after a key. -/
def readColon (cs : List Char) : Except ReadError (List Char) :=
  match skipBlanks cs with
  | [] => .error .endInObject
  | c :: rest => if c = ':' then .ok rest else .error .expectedColon

/-- A value after a key. -/
def readAfterColon {α : Type} (read : Reader α) : Reader α := fun cs =>
  match readColon cs with
  | .error e => .error e
  | .ok rest => read rest

/-! ## Containers -/

/-- The items of an array and its closing bracket, in at most `fuel` steps. -/
def readItems (item : Reader Json) : Nat → Bool → Reader (List Json)
  | 0, _, _ => .error .endInList
  | fuel + 1, first, cs =>
    match nextItem first cs with
    | .error e => .error e
    | .ok none => (closeList cs).map fun rest => ([], rest)
    | .ok (some start) =>
      match item start with
      | .error e => .error e
      | .ok (value, rest) => (readItems item fuel false rest).map fun (values, rest) => (value :: values, rest)

/-- The fields of a record by position, of which `index` come before these. -/
def readPositions (item : Shape ν → Reader Json) (r : Record ν) : List (Field ν) → Nat → Reader (List (String × Json))
  | [], _, cs => .ok ([], cs)
  | field :: fields, index, cs =>
    match nextItem (index = 0) cs with
    | .error e => .error e
    | .ok none =>
      match field.absence.position with
      | none => .error (.invalidLength index r.expectation)
      | some value =>
        (readPositions item r fields (index + 1) cs).map fun (members, rest) => ((field.name, value) :: members, rest)
    | .ok (some start) =>
      match item field.shape start with
      | .error e => .error e
      | .ok (value, rest) =>
        (readPositions item r fields (index + 1) rest).map fun (members, rest) => ((field.name, value) :: members, rest)

/-- The members of a record from those that were read: one for each field, in the order of the fields. -/
def completeMembers (seen : List (String × Json)) : List (Field ν) → Except ReadError (List (String × Json))
  | [] => .ok []
  | field :: fields =>
    match (member? field.name seen).or field.absence.member with
    | none => .error (.missingField field.name)
    | some value => (completeMembers seen fields).map ((field.name, value) :: ·)

/-- The members of a record and its closing brace, in at most `fuel` steps. `seen` holds the members that have been read. -/
def readMembers (item : Shape ν → Reader Json) (r : Record ν) :
    Nat → Bool → List (String × Json) → Reader (List (String × Json))
  | 0, _, _, _ => .error .endInObject
  | fuel + 1, first, seen, cs =>
    match nextKey first cs with
    | .error e => .error e
    | .ok (none, rest) => (completeMembers seen r.fields).map (·, rest)
    | .ok (some key, rest) =>
      match r.fields.find? (·.name = key) with
      | none =>
        if r.strict then .error (.unknownField key (r.fields.map (·.name)))
        else
          match readAfterColon skipValue rest with
          | .error e => .error e
          | .ok (_, rest) => readMembers item r fuel false seen rest
      | some field =>
        if (member? key seen).isSome then .error (.duplicateField key)
        else
          match readAfterColon (item field.shape) rest with
          | .error e => .error e
          | .ok (value, rest) => readMembers item r fuel false (seen ++ [(key, value)]) rest

/-- The members of an object with any keys and its closing brace, in at most `fuel` steps. -/
def readTable (item : Reader Json) : Nat → Bool → Reader (List (String × Json))
  | 0, _, _ => .error .endInObject
  | fuel + 1, first, cs =>
    match nextKey first cs with
    | .error e => .error e
    | .ok (none, rest) => .ok ([], rest)
    | .ok (some key, rest) =>
      match readAfterColon item rest with
      | .error e => .error e
      | .ok (value, rest) => (readTable item fuel false rest).map fun (members, rest) => ((key, value) :: members, rest)

/-- A record, at a position where its containers may be entered and their content is read by `item`. -/
def readRecord (item : Option (Shape ν → Reader Json)) (r : Record ν) : Reader Json := fun cs =>
  match skipBlanks cs with
  | [] => .error .endInValue
  | c :: rest =>
    if c = '[' ∧ r.positional then
      match item with
      | none => .error .tooDeep
      | some item =>
        match readPositions item r r.fields 0 rest with
        | .error e => .error e
        | .ok (members, rest) => (closeList rest).map fun rest => (.object members, rest)
    else if c = '\x7b' then
      match item with
      | none => .error .tooDeep
      | some item =>
        (readMembers item r (rest.length + 1) true [] rest).map fun (members, rest) => (.object members, rest)
    else .error (mismatch r.title (c :: rest))

/-- The variant with a given name. -/
def findVariant (variants : List (Variant ν)) (name : String) : Except ReadError (Variant ν) :=
  match variants.find? (·.name = name) with
  | none => .error (.unknownVariant name (variants.map (·.name)))
  | some variant => .ok variant

/-- A variant given by its name alone. -/
def bareVariant (variant : Variant ν) : Except ReadError Json :=
  match variant.content with
  | .none => .ok (.string variant.name)
  | .value _ => .error (.invalidType .unitVariant "newtype variant")
  | .fields _ => .error (.invalidType .unitVariant "struct variant")

/-- The content of a variant, after its name and the colon. -/
def readContent (item : Shape ν → Reader Json) (variant : Variant ν) : Reader Json := fun cs =>
  match variant.content with
  | .none => (item (.unit "unit") cs).map fun (_, rest) => (.string variant.name, rest)
  | .value shape => (item shape cs).map fun (value, rest) => (.object [(variant.name, value)], rest)
  | .fields name => (item (.part name) cs).map fun (value, rest) => (.object [(variant.name, value)], rest)

/-- The closing brace of a variant that is given with its content: nothing else may follow. -/
def closeVariant (cs : List Char) : Except ReadError (List Char) :=
  match skipBlanks cs with
  | [] => .error .endInObject
  | c :: rest => if c = '\x7d' then .ok rest else .error .expectedValue

/-- A choice: a string with the name of a variant, or an object whose only key is the name. -/
def readChoice (item : Option (Shape ν → Reader Json)) (variants : List (Variant ν)) : Reader Json := fun cs =>
  match skipBlanks cs with
  | [] => .error .endInValue
  | c :: rest =>
    if c = '"' then
      match readString rest with
      | .error e => .error e
      | .ok (name, rest) => ((findVariant variants name).bind bareVariant).map (·, rest)
    else if c = '\x7b' then
      match item with
      | none => .error .tooDeep
      | some item =>
        match skipBlanks rest with
        | [] => .error .endInObject
        | c :: rest =>
          if c = '"' then
            match readString rest with
            | .error e => .error e
            | .ok (name, rest) =>
              match findVariant variants name with
              | .error e => .error e
              | .ok variant =>
                match readAfterColon (readContent item variant) rest with
                | .error e => .error e
                | .ok (value, rest) => (closeVariant rest).map (value, ·)
          else if c = '\x7d' then .error .expectedValue
          else .error .keyMustBeString
    else .error .expectedValue

/-! ## Scalars -/

/-- A boolean. -/
def readBoolean : Reader Json := fun cs =>
  match skipBlanks cs with
  | [] => .error .endInValue
  | c :: rest =>
    if c = 't' then (readWord ['r', 'u', 'e'] rest).map fun (_, rest) => (.boolean true, rest)
    else if c = 'f' then (readWord ['a', 'l', 's', 'e'] rest).map fun (_, rest) => (.boolean false, rest)
    else .error (mismatch "a boolean" (c :: rest))

/-- A string. -/
def readText : Reader Json := fun cs =>
  match skipBlanks cs with
  | [] => .error .endInValue
  | c :: rest =>
    if c = '"' then (readString rest).map fun (value, rest) => (.string value, rest)
    else .error (mismatch "a string" (c :: rest))

/-- The value `null`. -/
def readNull (expected : String) : Reader Json := fun cs =>
  match skipBlanks cs with
  | [] => .error .endInValue
  | c :: rest =>
    if c = 'n' then (readWord ['u', 'l', 'l'] rest).map fun (_, rest) => (.null, rest)
    else .error (mismatch expected (c :: rest))

/-- An integer of a range. -/
def readInteger (range : IntegerRange) : Reader Json := fun cs =>
  let check : Except ReadError (Number × List Char) → Except ReadError (Json × List Char)
    | .error e => .error e
    | .ok (.integer value, rest) =>
      if range.least ≤ value ∧ value ≤ range.greatest then .ok (.integer value, rest)
      else .error (.invalidValue (.integer value) range.name)
    | .ok (.double text, _) => .error (.invalidType (.double text) range.name)
  match skipBlanks cs with
  | [] => .error .endInValue
  | c :: rest =>
    if c = '-' then check (readNumber true rest)
    else if c.isDigit then check (readNumber false (c :: rest))
    else .error (mismatch range.name (c :: rest))

/-! ## Documents -/

/-- A list of two values. -/
def readPair (first second : Reader Json) : Reader Json := fun cs =>
  match nextItem true cs with
  | .error e => .error e
  | .ok none => .error (.invalidLength 0 "a tuple of size 2")
  | .ok (some start) =>
    match first start with
    | .error e => .error e
    | .ok (one, rest) =>
      match nextItem false rest with
      | .error e => .error e
      | .ok none => .error (.invalidLength 1 "a tuple of size 2")
      | .ok (some start) =>
        match second start with
        | .error e => .error e
        | .ok (two, rest) => (closeList rest).map fun rest => (.array [one, two], rest)

/-- Reads a value of a shape, at a position where the content of a container is read by `item`; with none, no container may
be entered any more. -/
def readShape (schema : Schema ν) (item : Option (Shape ν → Reader Json)) : Shape ν → Reader Json
  | .string, cs => readText cs
  | .boolean, cs => readBoolean cs
  | .integer range, cs => readInteger range cs
  | .unit expected, cs => readNull expected cs
  | .optional inner, cs =>
    match skipBlanks cs with
    | 'n' :: rest => (readWord ['u', 'l', 'l'] rest).map fun (_, rest) => (.null, rest)
    | rest => readShape schema item inner rest
  | .list expected inner, cs =>
    match skipBlanks cs with
    | [] => .error .endInValue
    | c :: rest =>
      if c = '[' then
        match item with
        | none => .error .tooDeep
        | some item =>
          (readItems (item inner) (rest.length + 1) true rest).map fun (values, rest) => (.array values, rest)
      else .error (mismatch expected (c :: rest))
  | .pair first second, cs =>
    match skipBlanks cs with
    | [] => .error .endInValue
    | c :: rest =>
      if c = '[' then
        match item with
        | none => .error .tooDeep
        | some item => readPair (item first) (item second) rest
      else .error (mismatch "a tuple of size 2" (c :: rest))
  | .table inner, cs =>
    match skipBlanks cs with
    | [] => .error .endInValue
    | c :: rest =>
      if c = '\x7b' then
        match item with
        | none => .error .tooDeep
        | some item =>
          (readTable (item inner) (rest.length + 1) true rest).map fun (members, rest) => (.object members, rest)
      else .error (mismatch "a map" (c :: rest))
  | .part name, cs =>
    match schema name with
    | .record r => readRecord item r cs
    | .choice variants => readChoice item variants cs

/-- Reads a value of a shape where so many levels of containers are still free. -/
def readUnder (schema : Schema ν) : Nat → Shape ν → Reader Json
  | 0 => readShape schema none
  | level + 1 => readShape schema (some (readUnder schema level))

/-- The number of containers that may stand in each other. -/
def depthLimit : Nat := 127

/-- Reads a whole text: a value of a shape, with nothing but blanks around it. -/
def read (schema : Schema ν) (shape : Shape ν) (text : String) : Except ReadError Json :=
  match readUnder schema depthLimit shape text.toList with
  | .error e => .error e
  | .ok (value, rest) =>
    match skipBlanks rest with
    | [] => .ok value
    | _ :: _ => .error .trailingCharacters

end DataRequests.Json
