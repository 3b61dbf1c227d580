import DataRequests.Json.Value

/-!
# Shapes of documents

A shape says what a document may hold at one position. Shapes are built from scalars, lists and the named parts of a
document; a `Schema` tells, for each name, whether the part is a record with fields or a choice between variants. A part
may contain itself, since it is referred to by name.

What a reader hands on has one form for each shape: a record is an object with all its fields in the order of the schema,
and a choice is the name of a variant or an object with the name as its only key.
-/

namespace DataRequests.Json

/-- The integers that a position holds, and the word for them. -/
structure IntegerRange where
  name : String
  least : Int
  greatest : Int

/-- What a document may hold at one position; `ν` names the parts of the document. -/
inductive Shape (ν : Type) where
  | string
  | boolean
  | integer (range : IntegerRange)
  /-- The value `null`. -/
  | unit (expected : String)
  | optional (inner : Shape ν)
  | list (expected : String) (inner : Shape ν)
  | pair (first second : Shape ν)
  /-- An object with any keys. -/
  | table (inner : Shape ν)
  | part (name : ν)

/-- What it means that a field is absent. -/
inductive Absence where
  /-- The field must be there. -/
  | missing
  /-- The field has a value when it is left out, wherever that is. -/
  | default (value : Json)
  /-- The field is `null` when its member is left out; a list of the fields by position has to hold it. -/
  | nullMember

/-- A field of a record. -/
structure Field (ν : Type) where
  name : String
  shape : Shape ν
  absence : Absence := .missing

/-- A record: an object with known keys, or an array with the fields by position. -/
structure Record (ν : Type) where
  /-- The words for the record in a message. -/
  title : String
  fields : List (Field ν)
  /-- Whether a member with another key is an error. -/
  strict : Bool
  /-- Whether the fields may be given by position. -/
  positional : Bool := true

/-- What goes with the name of a variant. -/
inductive Content (ν : Type) where
  | none
  /-- A value of its own. -/
  | value (shape : Shape ν)
  /-- The fields of a record. -/
  | fields (record : ν)

/-- A variant of a choice. -/
structure Variant (ν : Type) where
  name : String
  content : Content ν := .none

/-- A named part of a document. -/
inductive Part (ν : Type) where
  | record (r : Record ν)
  | choice (variants : List (Variant ν))

/-- What the names of the parts stand for. -/
abbrev Schema (ν : Type) := ν → Part ν

/-- The words for a record in a message about its length. -/
def Record.expectation {ν : Type} (r : Record ν) : String :=
  r.title ++ " with " ++ toString r.fields.length ++ (if r.fields.length = 1 then " element" else " elements")

/-- The value of a field whose member is left out of an object. -/
def Absence.member : Absence → Option Json
  | .missing => none
  | .default value => some value
  | .nullMember => some .null

/-- The value of a field that a list by position has not reached. -/
def Absence.position : Absence → Option Json
  | .default value => some value
  | _ => none

end DataRequests.Json
