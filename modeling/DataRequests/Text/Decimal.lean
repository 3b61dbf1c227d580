/-!
# Shortest decimals

A binary fraction is written with the fewest digits that read back as it, and of those with the digits nearest to it; of two
that are equally near, with those that end in an even digit. The value is taken apart exactly, as `significand · 2 ^ exponent`; the numbers that read back as it are those between the
midpoints to its two neighbours, the midpoints included when the significand is even.
-/

namespace DataRequests.Text

/-- A positive binary fraction, `significand · 2 ^ exponent`. `lowest` tells that the neighbour below it is half as far away as
the neighbour above. -/
structure Binary where
  significand : Nat
  exponent : Int
  lowest : Bool

/-- The weight of the exponent in the bits of a double, whose fraction has 52 bits. -/
def exponentWeight : Nat := 0x10000000000000

/-- The weight of the sign in the bits of a double, whose exponent has 11 bits. -/
def signWeight : Nat := 0x8000000000000000

/-- The binary fraction that the bits of a double stand for, its sign left out. -/
def Binary.ofBits (bits : UInt64) : Binary :=
  let fraction : Nat := bits.toNat % exponentWeight
  let field : Nat := bits.toNat % signWeight / exponentWeight
  if field = 0 then ⟨fraction, -1074, false⟩
  else ⟨fraction + exponentWeight, (field : Int) - 1075, fraction = 0 && field > 1⟩

/-- A decimal number, `digits · 10 ^ exponent`. -/
structure Decimal where
  digits : Nat
  exponent : Int
  deriving DecidableEq, Repr

/-- `n · base ^ exponent` as a fraction of two natural numbers. -/
def scaled (n base : Nat) (exponent : Int) : Nat × Nat :=
  match exponent with
  | .ofNat k => (n * Nat.pow base k, 1)
  | .negSucc k => (n, Nat.pow base (k + 1))

/-- Whether a decimal reads back as a binary fraction. -/
def Binary.readsBack (b : Binary) (d : Decimal) : Bool :=
  let (num, den) := scaled d.digits 10 d.exponent
  -- Four times the value, so that the midpoints are whole multiples of `2 ^ exponent`.
  let below := 4 * b.significand - (if b.lowest then 1 else 2)
  let above := 4 * b.significand + 2
  let (two, part) := scaled 1 2 b.exponent
  let value := 4 * num * part
  if b.significand % 2 = 0 then below * two * den ≤ value && value ≤ above * two * den
  else below * two * den < value && value < above * two * den

/-- The two neighbours of a binary fraction on the grid of the multiples of `10 ^ exponent`, the nearer one first, and of two that
are equally near the even one. -/
def Binary.neighbours (b : Binary) (exponent : Int) : List Decimal :=
  let (num, den) := scaled b.significand 2 b.exponent
  let (ten, part) := scaled 1 10 exponent
  let floor := num * part / (den * ten)
  let remainder := num * part % (den * ten)
  if 2 * remainder < den * ten ∨ 2 * remainder = den * ten ∧ floor % 2 = 0 then
    [⟨floor, exponent⟩, ⟨floor + 1, exponent⟩]
  else [⟨floor + 1, exponent⟩, ⟨floor, exponent⟩]

/-- The shortest decimal that reads back as a binary fraction: the first hit on ever finer grids. -/
def Binary.shortest? (b : Binary) : Option Decimal :=
  (List.range 640).findSome? fun (k : Nat) =>
    (b.neighbours (310 - (k : Int))).find? fun d => d.digits > 0 && b.readsBack d

/-- The number of decimal places left of the point: positive exponents up to this are written in full. -/
def positionalPlaces : Int := 16

/-- A decimal as text. Values from `10 ^ -5` up to `10 ^ 16` are written in full, with at least one digit after the point, others
with an exponent that has a sign. -/
def Decimal.toText (d : Decimal) : String :=
  let digits := Nat.toDigits 10 d.digits
  let point := digits.length + d.exponent
  if 0 ≤ d.exponent && point ≤ positionalPlaces then
    String.ofList (digits ++ List.replicate d.exponent.toNat '0' ++ ['.', '0'])
  else if 0 < point && point ≤ positionalPlaces then
    String.ofList (digits.take point.toNat ++ '.' :: digits.drop point.toNat)
  else if -5 < point && point ≤ 0 then
    String.ofList ('0' :: '.' :: List.replicate (-point).toNat '0' ++ digits)
  else
    let mantissa := match digits with
      | [] => []
      | [only] => [only]
      | first :: rest => first :: '.' :: rest
    let power := point - 1
    String.ofList (mantissa ++ 'e' :: (if power < 0 then '-' else '+') :: Nat.toDigits 10 power.natAbs)

/-- A finite double as text. -/
def ofDouble (value : Float) : String :=
  let bits := value.toBits
  let sign := if bits.toNat / signWeight = 1 then "-" else ""
  let binary := Binary.ofBits bits
  match if binary.significand = 0 then none else binary.shortest? with
  | some d => sign ++ d.toText
  | none => sign ++ "0.0"

end DataRequests.Text
