/-!
# Arenas

An arena keeps values in numbered slots and finds them by key. A value goes into the lowest free slot; when none is free the
number of slots doubles first. A key that is taken keeps its value, and nothing is ever removed, so that the values of an
arena that started empty stand in the order in which they were added.

An arena may also be read from a text, and then its keys need not lead to values (`Arena.find`).
-/

namespace DataRequests

/-- Values in slots, and the slots that keys lead to. -/
structure Arena (α : Type) where
  /-- The slots; a free one holds nothing. -/
  slots : List (Option α)
  /-- The keys and the numbers of their slots, in the order in which they were added. -/
  keys : List (String × Nat)
  deriving DecidableEq, Repr

/-- What a key leads to. -/
inductive Arena.Find (α : Type) where
  /-- The key is unknown. -/
  | unknown
  /-- The slot of the key is free, or there is no such slot. -/
  | dangling
  | value (a : α)
  deriving DecidableEq, Repr

namespace Arena

variable {α : Type}

/-- The arena without values: it has four free slots. -/
def empty : Arena α :=
  ⟨List.replicate 4 none, []⟩

instance : Inhabited (Arena α) := ⟨empty⟩

/-- The number of values. -/
def size (a : Arena α) : Nat :=
  a.slots.countP (·.isSome)

/-- The values, in the order of their slots. -/
def values (a : Arena α) : List α :=
  a.slots.filterMap id

/-- The slot of a key. -/
def id? (a : Arena α) (key : String) : Option Nat :=
  (a.keys.find? (·.1 = key)).map (·.2)

/-- Whether a key is taken. -/
def contains (a : Arena α) (key : String) : Bool :=
  (a.id? key).isSome

/-- The value in a slot. -/
def slot? (a : Arena α) (slot : Nat) : Option α :=
  (a.slots[slot]?).getD none

/-- What a key leads to. -/
def find (a : Arena α) (key : String) : Find α :=
  match a.id? key with
  | none => .unknown
  | some slot =>
    match a.slot? slot with
    | none => .dangling
    | some value => .value value

/-- The slots with a value in the lowest free one. -/
def fill (value : α) : List (Option α) → List (Option α)
  | [] => []
  | none :: rest => some value :: rest
  | some other :: rest => some other :: fill value rest

/-- The slots, doubled in number if none is free. -/
def grow (slots : List (Option α)) : List (Option α) :=
  if slots.all (·.isSome) then slots ++ List.replicate (max 1 slots.length) none else slots

/-- The number of the lowest free slot, or of the first one that growing adds. -/
def nextSlot (a : Arena α) : Nat :=
  a.slots.findIdx (·.isNone)

/-- The arena with a value under a key that is not taken. -/
def insert (a : Arena α) (key : String) (value : α) : Arena α where
  slots := fill value (grow a.slots)
  keys := a.keys ++ [(key, a.nextSlot)]

/-- Adds a value under a key and gives its slot; a key that is taken keeps its value and nothing is added. -/
def tryAdd (a : Arena α) (key : String) (value : α) : Option (Nat × Arena α) :=
  if a.contains key then none else some (a.nextSlot, a.insert key value)

/-- Adds a value under a key unless it is taken, and gives the slot of the key. -/
def add (a : Arena α) (key : String) (value : α) : Nat × Arena α :=
  match a.id? key with
  | some slot => (slot, a)
  | none => (a.nextSlot, a.insert key value)

/-! ## Calls -/

/-- A call that adds a value under a key. -/
inductive Call (α : Type) where
  /-- The key has a slot afterwards, whether it was taken or not. -/
  | add (key : String) (value : α)
  /-- The value comes back when the key is taken. -/
  | tryAdd (key : String) (value : α)
  deriving DecidableEq, Repr

/-- The key of a call. -/
def Call.key : Call α → String
  | .add key _ | .tryAdd key _ => key

/-- The value of a call. -/
def Call.value : Call α → α
  | .add _ value | .tryAdd _ value => value

/-- What a call gives. -/
inductive Answer (α : Type) where
  /-- The slot of the key. -/
  | slot (slot : Nat)
  /-- The value of the call, which was not added. -/
  | rejected (value : α)
  deriving DecidableEq, Repr

/-- Makes a call. -/
def call (a : Arena α) : Call α → Answer α × Arena α
  | .add key value => (.slot (a.add key value).1, (a.add key value).2)
  | .tryAdd key value =>
    match a.tryAdd key value with
    | none => (.rejected value, a)
    | some (slot, after) => (.slot slot, after)

/-- Makes calls one after the other. -/
def run (a : Arena α) (calls : List (Call α)) : Arena α :=
  calls.foldl (fun a c => (a.call c).2) a

end Arena

end DataRequests
