import DataRequests.Arena
import DataRequests.Json.Reader

/-!
# Arenas as JSON

An arena is written as its slots and a map from keys to slots, in the order of the keys. A slot with a value is a pair, whose
first half is always `null`; the number of a slot comes with a `null` generation.
-/

namespace DataRequests

namespace Arena

variable {α ν : Type}

/-- The number of a slot as JSON. -/
def idToJson (slot : Nat) : Json :=
  .object [("index", .integer slot), ("generation", .null)]

/-- A slot as JSON. -/
def slotToJson (write : α → Json) : Option α → Json
  | none => .null
  | some value => .array [.null, write value]

/-- An arena as JSON. -/
def toJson (write : α → Json) (a : Arena α) : Json :=
  .object
    [("values", Json.ofList (slotToJson write) a.slots),
     ("map", .object ((Json.sortMembers a.keys).map fun (key, slot) => (key, idToJson slot)))]

/-- The word for the generation of a slot. -/
def generation : Json.Shape ν :=
  .unit "unit struct IgnoreGeneration"

/-- The numbers of slots: those of 64 bits. -/
def slotRange : Json.IntegerRange :=
  ⟨"usize", 0, 0xFFFFFFFFFFFFFFFF⟩

/-- What an arena is, whose values have a given shape; `id` names the number of a slot. -/
def part (value : Json.Shape ν) (id : ν) : Json.Part ν :=
  .record
    { title := "struct MappedArena"
      fields :=
        [⟨"values", .list "a generational arena" (.optional (.pair generation value)), .missing⟩,
         ⟨"map", .table (.part id), .missing⟩]
      strict := false }

/-- What the number of a slot is. -/
def idPart : Json.Part ν :=
  .record
    { title := "struct Index"
      fields := [⟨"index", .integer slotRange, .missing⟩, ⟨"generation", generation, .missing⟩]
      strict := false }

/-- The slot of a written form. -/
def slotOfJson (read : Json → α) : Json → Option α
  | .array [_, value] => some (read value)
  | _ => none

/-- The arena of a written form. -/
def ofJson (read : Json → α) (j : Json) : Arena α where
  slots := (j.field "values").items.map (slotOfJson read)
  keys := (Json.lastMembers (j.field "map").members).map fun (key, id) => (key, (id.field "index").int.toNat)

/-- The parts of an arena of integers. -/
inductive IntegerPart where
  | arena
  | id
  deriving DecidableEq, Repr

/-- The integers of 64 bits. -/
def integerRange : Json.IntegerRange :=
  ⟨"i64", -0x8000000000000000, 0x7FFFFFFFFFFFFFFF⟩

/-- What the parts of an arena of integers are. -/
def integerSchema : Json.Schema IntegerPart
  | .arena => part (.integer integerRange) .id
  | .id => idPart

/-- Reads an arena of integers from its text. -/
def parseIntegers (text : String) : Except Json.ReadError (Arena Int) :=
  (Json.read integerSchema (.part .arena) text).map (ofJson Json.int)

end Arena

end DataRequests
