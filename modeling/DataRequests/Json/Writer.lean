import DataRequests.Json.Value

/-!
# Writing JSON

A value has two written forms: the compact one, without any blank, and the indented one, with one member or item to a line
and two blanks for each level. Both quote strings in the same way (`quote`): the quotation mark, the reverse solidus and
the control characters are escaped, every other character stands for itself.
-/

namespace DataRequests.Json

/-- The lower-case hexadecimal digit of a number below sixteen. -/
def hexDigit (n : Nat) : Char :=
  if n < 10 then Char.ofNat (48 + n) else Char.ofNat (87 + n)

/-- A character as it stands between quotation marks. -/
def escape (c : Char) : List Char :=
  if c = '"' then ['\\', '"']
  else if c = '\\' then ['\\', '\\']
  else if c = '\n' then ['\\', 'n']
  else if c = '\r' then ['\\', 'r']
  else if c = '\t' then ['\\', 't']
  else if c = '\x08' then ['\\', 'b']
  else if c = '\x0c' then ['\\', 'f']
  else if c.toNat < 32 then ['\\', 'u', '0', '0', hexDigit (c.toNat / 16), hexDigit (c.toNat % 16)]
  else [c]

/-- A text between quotation marks. -/
def quote (s : String) : List Char :=
  '"' :: (s.toList.flatMap escape ++ ['"'])

/-- The digits of an integer, with a minus sign when it is negative. -/
def digits : Int → List Char
  | .ofNat n => Nat.toDigits 10 n
  | .negSucc n => '-' :: Nat.toDigits 10 (n + 1)

/-- The written form of a scalar; a container has none of its own. -/
def scalar : Json → List Char
  | .null => ['n', 'u', 'l', 'l']
  | .boolean true => ['t', 'r', 'u', 'e']
  | .boolean false => ['f', 'a', 'l', 's', 'e']
  | .integer n => digits n
  | .string s => quote s
  | .array _ | .object _ => []

mutual

/-- The compact written form, as characters. -/
def compactChars : Json → List Char
  | .array values => '[' :: compactItems values
  | .object pairs => '\x7b' :: compactMembers pairs
  | .null => scalar .null
  | .boolean b => scalar (.boolean b)
  | .integer n => scalar (.integer n)
  | .string s => scalar (.string s)

/-- The items of an array and its closing bracket. -/
def compactItems : List Json → List Char
  | [] => [']']
  | [value] => compactChars value ++ [']']
  | value :: rest => compactChars value ++ ',' :: compactItems rest

/-- The members of an object and its closing brace. -/
def compactMembers : List (String × Json) → List Char
  | [] => ['\x7d']
  | [(key, value)] => quote key ++ ':' :: compactChars value ++ ['\x7d']
  | (key, value) :: rest => quote key ++ ':' :: compactChars value ++ ',' :: compactMembers rest

end

/-- The compact written form. -/
def compact (value : Json) : String :=
  String.ofList value.compactChars

/-- A line break and the blanks of a level. -/
def lineAt (level : Nat) : List Char :=
  '\n' :: List.replicate (2 * level) ' '

mutual

/-- The indented written form of a value that stands at a level. -/
def indentedChars (level : Nat) : Json → List Char
  | .array [] => ['[', ']']
  | .array values => '[' :: indentedItems level values
  | .object [] => ['\x7b', '\x7d']
  | .object pairs => '\x7b' :: indentedMembers level pairs
  | .null => scalar .null
  | .boolean b => scalar (.boolean b)
  | .integer n => scalar (.integer n)
  | .string s => scalar (.string s)

/-- The items of an array, each on a line of its own, and the closing bracket. -/
def indentedItems (level : Nat) : List Json → List Char
  | [] => lineAt level ++ [']']
  | [value] => lineAt (level + 1) ++ indentedChars (level + 1) value ++ lineAt level ++ [']']
  | value :: rest => lineAt (level + 1) ++ indentedChars (level + 1) value ++ ',' :: indentedItems level rest

/-- The members of an object, each on a line of its own, and the closing brace. -/
def indentedMembers (level : Nat) : List (String × Json) → List Char
  | [] => lineAt level ++ ['\x7d']
  | [(key, value)] =>
    lineAt (level + 1) ++ quote key ++ ':' :: ' ' :: indentedChars (level + 1) value ++ lineAt level ++ ['\x7d']
  | (key, value) :: rest =>
    lineAt (level + 1) ++ quote key ++ ':' :: ' ' :: indentedChars (level + 1) value ++
      ',' :: indentedMembers level rest

end

/-- The indented written form. -/
def indented (value : Json) : String :=
  String.ofList (value.indentedChars 0)

end DataRequests.Json
