import DataRequests.Text.Decimal

/-!
# Numbers in JSON texts

A number that has neither fraction nor exponent and fits 64 bits is an integer; every other number is a double, and so is
`-0`. A document never needs the value of a double, only its text in a message and whether it is finite, so a `Number` keeps
the text. Digits beyond those that 64 bits hold only count for the exponent.
-/

namespace DataRequests.Json

/-- A number of a JSON text. -/
inductive Number where
  | integer (value : Int)
  | double (text : String)
  deriving DecidableEq, Repr

/-- The largest number of 64 bits. -/
def maxWord : Nat := 0xFFFFFFFFFFFFFFFF

/-- `significand · 10 ^ exponent` as a double; none when it is out of range. Powers of ten beyond the largest double are divided
off first. -/
def double? (significand : Nat) (exponent : Int) : Option Float :=
  let value := (UInt64.ofNat significand).toFloat
  match exponent with
  | .ofNat k =>
    if k ≤ 308 then
      let product := value * Float.ofScientific 1 false k
      if product.isInf then none else some product
    else if significand = 0 then some value else none
  | .negSucc k => some (divided value (k + 1) 3)
where
  /-- The value divided by a power of ten, in at most `n` steps; after that nothing is left of it. -/
  divided (value : Float) (k : Nat) : Nat → Float
    | 0 => 0.0
    | n + 1 =>
      if k ≤ 308 then value / Float.ofScientific 1 false k
      else divided (value / Float.ofScientific 1 false 308) (k - 308) n

end DataRequests.Json
