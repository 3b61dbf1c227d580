/-!
# Bare scalars

The forms of numbers, booleans, dates and times, which stand in a TOML document without quotation marks. Digits may be
grouped by single underscores. A date has to be one of the calendar.

The value of a whole number is never taken, so its form is only looked at as far as needed to tell it from other scalars: a
number to another base may lack digits, and of digits in groups only the ends of the groups count.
-/

namespace DataRequests.Toml

/-! ## Numbers -/

/-- Whether a text consists of digits, with single underscores between them. -/
def isGrouped (isDigit : Char → Bool) : List Char → Bool
  | [] => false
  | [c] => isDigit c
  | c :: '_' :: rest => isDigit c && isGrouped isDigit rest
  | c :: rest => isDigit c && isGrouped isDigit rest

/-- A number without its sign. -/
def unsigned : List Char → List Char
  | '+' :: rest => rest
  | '-' :: rest => rest
  | cs => cs

/-- Whether a text is a whole number: no zero stands in front of other digits. -/
def isWhole (cs : List Char) : Bool :=
  isGrouped Char.isDigit cs && (cs.head? != some '0' || cs.length = 1)

/-- A text up to the first character of a kind, and what follows that character. -/
def splitFirst (isMark : Char → Bool) (cs : List Char) : List Char × Option (List Char) :=
  match cs.dropWhile (fun c => !isMark c) with
  | [] => (cs, none)
  | _ :: rest => (cs.takeWhile fun c => !isMark c, some rest)

/-- Whether a text is a decimal number. -/
def isDecimal (cs : List Char) : Bool :=
  let (mantissa, exponent) := splitFirst (fun c => c = 'e' || c = 'E') (unsigned cs)
  let (whole, fraction) := splitFirst (· = '.') mantissa
  isWhole whole && fraction.all (isGrouped Char.isDigit) &&
    exponent.all fun e => isGrouped Char.isDigit (unsigned e)

/-- Whether a character is a hexadecimal digit. -/
def isHexDigit (c : Char) : Bool :=
  c.isDigit || ('a' ≤ c && c ≤ 'f') || ('A' ≤ c && c ≤ 'F')

/-- Whether a text is empty or consists of digits, with single underscores between them. -/
def isEmptyOrGrouped (isDigit : Char → Bool) (cs : List Char) : Bool :=
  cs.isEmpty || isGrouped isDigit cs

/-- Whether the groups behind the first digits of a number start with a digit, and each that another one follows ends with one.
A digit is a hexadecimal one here. -/
def haveDigitEnds : List (List Char) → Bool
  | [] => true
  | [last] => last.head?.any isHexDigit
  | group :: rest => group.head?.any isHexDigit && group.getLast?.any isHexDigit && haveDigitEnds rest

/-- Whether a text is a whole number with groups: digits, the first of which is not zero, and groups after underscores. -/
def isLooselyGrouped (cs : List Char) : Bool :=
  match cs.takeWhile Char.isDigit, cs.dropWhile Char.isDigit with
  | first :: _, '_' :: rest =>
    first != '0' && !rest.any (fun c => c = '.' || c = 'e' || c = 'E') && haveDigitEnds (rest.splitOn '_')
  | _, _ => false

/-- Whether a text is a number. -/
def isNumber : List Char → Bool
  | '0' :: 'x' :: rest => isEmptyOrGrouped isHexDigit rest
  | '0' :: 'o' :: rest => isEmptyOrGrouped (fun c => '0' ≤ c && c ≤ '7') rest
  | '0' :: 'b' :: rest => isEmptyOrGrouped (fun c => c = '0' || c = '1') rest
  | cs =>
    unsigned cs = ['i', 'n', 'f'] || unsigned cs = ['n', 'a', 'n'] || isDecimal cs || isLooselyGrouped (unsigned cs)

/-! ## Dates and times -/

/-- The number that two digits stand for. -/
def twoDigits? (a b : Char) : Option Nat :=
  if a.isDigit && b.isDigit then some ((a.toNat - 48) * 10 + (b.toNat - 48)) else none

/-- The number of days of a month. -/
def daysOf (year month : Nat) : Nat :=
  if month = 2 then (if year % 4 = 0 && (year % 100 != 0 || year % 400 = 0) then 29 else 28)
  else if month = 4 || month = 6 || month = 9 || month = 11 then 30
  else 31

/-- Whether ten characters are a date. -/
def isDate : List Char → Bool
  | [a, b, c, d, '-', e, f, '-', g, h] =>
    match twoDigits? a b, twoDigits? c d, twoDigits? e f, twoDigits? g h with
    | some century, some year, some month, some day =>
      1 ≤ month && month ≤ 12 && 1 ≤ day && day ≤ daysOf (century * 100 + year) month
    | _, _, _, _ => false
  | _ => false

/-- Whether two digits are a number below a bound. -/
def isBelow (bound : Nat) (a b : Char) : Bool :=
  (twoDigits? a b).any (· < bound)

/-- Whether a text is a time: hours and minutes, and, if they are given, seconds and a fraction. -/
def isTime : List Char → Bool
  | a :: b :: ':' :: c :: d :: rest =>
    isBelow 24 a b && isBelow 60 c d &&
      match rest with
      | [] => true
      | ':' :: e :: f :: rest =>
        isBelow 61 e f &&
          match rest with
          | [] => true
          | '.' :: digits => !digits.isEmpty && digits.all Char.isDigit
          | _ => false
      | _ => false
  | _ => false

/-- Whether a text is the offset of a time zone. -/
def isOffset : List Char → Bool
  | [] => true
  | ['Z'] | ['z'] => true
  | [sign, a, b, ':', c, d] => (sign = '+' || sign = '-') && isBelow 24 a b && isBelow 60 c d
  | _ => false

/-- Whether a text is a time with or without the offset of a time zone. -/
def isTimeWithOffset (cs : List Char) : Bool :=
  let isMark := fun c => c = 'Z' || c = 'z' || c = '+' || c = '-'
  isTime (cs.takeWhile fun c => !isMark c) && isOffset (cs.dropWhile fun c => !isMark c)

/-- Whether a text is a date, a time or both. -/
def isMoment (cs : List Char) : Bool :=
  isTime cs || isDate cs ||
    isDate (cs.take 10) &&
      match cs.drop 10 with
      | mark :: rest => (mark = 'T' || mark = 't' || mark = ' ') && isTimeWithOffset rest
      | [] => false

/-- Whether a text is a number, a boolean, a date or a time. -/
def isScalar (cs : List Char) : Bool :=
  cs = ['t', 'r', 'u', 'e'] || cs = ['f', 'a', 'l', 's', 'e'] || isNumber cs || isMoment cs

end DataRequests.Toml
