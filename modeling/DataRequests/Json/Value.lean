/-!
# JSON values

The values this library writes and the values a reader hands on. Members of an object keep the order in which they were
given. Numbers are integers: nothing in a declaration document or in a resolved system is a fraction.

An object whose keys are data is written in the order of its keys (`sortMembers`), and when it is read the last member of a
key counts (`lastMembers`).
-/

namespace DataRequests

/-- A JSON value. -/
inductive Json where
  | null
  | boolean (value : Bool)
  | integer (value : Int)
  | string (value : String)
  | array (items : List Json)
  | object (members : List (String × Json))
  deriving Repr, Inhabited

namespace Json

/-- The value of the first member with a given name. -/
def member? (name : String) : List (String × Json) → Option Json
  | [] => none
  | (key, value) :: rest => if key = name then some value else member? name rest

/-- The text of a string value; of any other value, the empty text. -/
def text : Json → String
  | .string value => value
  | _ => ""

/-- Whether a value is `true`. -/
def isTrue : Json → Bool
  | .boolean value => value
  | _ => false

/-- The integer of a number; of any other value, zero. -/
def int : Json → Int
  | .integer value => value
  | _ => 0

/-- The items of an array; any other value has none. -/
def items : Json → List Json
  | .array values => values
  | _ => []

/-- The members of an object; any other value has none. -/
def members : Json → List (String × Json)
  | .object pairs => pairs
  | _ => []

/-- The member of an object with a given name, `null` where there is none. -/
def field (value : Json) (name : String) : Json :=
  (member? name value.members).getD .null

/-- What a nullable value holds, read by `read`. -/
def option {α : Type} (read : Json → α) : Json → Option α
  | .null => none
  | value => some (read value)

/-- A value that may be absent, written as `null` when it is. -/
def ofOption {α : Type} (write : α → Json) : Option α → Json
  | none => .null
  | some value => write value

/-- A list, written as an array. -/
def ofList {α : Type} (write : α → Json) (values : List α) : Json :=
  .array (values.map write)

mutual

/-- How many containers stand around the innermost one, that one counted: 0 for a scalar. -/
def depth : Json → Nat
  | .array values => depthOfItems values + 1
  | .object pairs => depthOfMembers pairs + 1
  | _ => 0

/-- The largest depth among the items of an array. -/
def depthOfItems : List Json → Nat
  | [] => 0
  | value :: rest => max value.depth (depthOfItems rest)

/-- The largest depth among the members of an object. -/
def depthOfMembers : List (String × Json) → Nat
  | [] => 0
  | (_, value) :: rest => max value.depth (depthOfMembers rest)

end

/-! ## Members of objects with any keys -/

section AnyKeys

variable {α : Type}

/-- Puts a member in front of the first one with a larger key. -/
def insertMember (member : String × α) : List (String × α) → List (String × α)
  | [] => [member]
  | other :: rest => if other.1 < member.1 then other :: insertMember member rest else member :: other :: rest

/-- The members in the order of their keys. -/
def sortMembers (members : List (String × α)) : List (String × α) :=
  members.foldr insertMember []

/-- The last member of each key. -/
def lastMembers : List (String × α) → List (String × α)
  | [] => []
  | member :: rest => if rest.any (·.1 = member.1) then lastMembers rest else member :: lastMembers rest

end AnyKeys

end Json

end DataRequests
