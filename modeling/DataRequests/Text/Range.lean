/-!
# Tables of characters

A class of characters is a list of ranges, or, where every second character of a stretch belongs to it, a list of runs. A
case map is a list of shifts, with the characters that map to several given one by one.

The white space of the Unicode character database is such a class: the space, the control characters that separate lines and
columns, and the spaces of other widths.
-/

namespace DataRequests.Text

/-- Whether a code point lies in one of the ranges, which are in ascending order and include both ends. -/
def inRanges : List (Nat × Nat) → Nat → Bool
  | [], _ => false
  | (first, last) :: rest, n => if n < first then false else n ≤ last || inRanges rest n

/-- The code points from `first` to `last`, `step` apart. -/
structure Run where
  first : Nat
  last : Nat
  step : Nat

/-- Whether a code point belongs to a run. -/
def Run.contains (r : Run) (n : Nat) : Bool :=
  r.first ≤ n && n ≤ r.last && (n - r.first) % r.step == 0

/-- Whether a code point belongs to one of the runs. -/
def inRuns (runs : List Run) (n : Nat) : Bool :=
  runs.any (·.contains n)

/-- The code points of a run, each of which maps to the one `offset` further on. -/
structure Shift extends Run where
  offset : Int

/-- What a character maps to: the sequence given for it, or the character a shift leads to, or itself. -/
def mapped (sequences : List (Nat × List Nat)) (shifts : List Shift) (c : Char) : List Char :=
  match sequences.find? (·.1 == c.toNat) with
  | some (_, codes) => codes.map Char.ofNat
  | none =>
    match shifts.find? (·.contains c.toNat) with
    | some shift => [Char.ofNat (c.toNat + shift.offset).toNat]
    | none => [c]

/-- The characters that are white space. -/
def blankRanges : List (Nat × Nat) :=
  [(0x9, 0xD), (0x20, 0x20), (0x85, 0x85), (0xA0, 0xA0), (0x1680, 0x1680), (0x2000, 0x200A), (0x2028, 0x2029),
   (0x202F, 0x202F), (0x205F, 0x205F), (0x3000, 0x3000)]

/-- Whether a character is white space. -/
def isBlank (c : Char) : Bool :=
  inRanges blankRanges c.toNat

end DataRequests.Text
