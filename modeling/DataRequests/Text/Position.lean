/-!
# Positions in a text

A position is given by the text before it. Lines end at line feeds; a line and a column are counted from one, a column in
characters and an offset in the bytes of the UTF-8 form.

A text is cut at the first occurrence of a pattern (`cutAt`). Occurrences may overlap, and the empty pattern occurs in front
of everything.
-/

namespace DataRequests.Text

/-- The number of bytes that a text takes. -/
def byteLength : List Char → Nat
  | [] => 0
  | c :: rest => c.utf8Size + byteLength rest

/-- The line on which a position lies. -/
def lineNumber (before : List Char) : Nat :=
  before.count '\n' + 1

/-- The part of the last line of a text that has been reached. -/
def lastLine (before : List Char) : List Char :=
  (before.reverse.takeWhile (· ≠ '\n')).reverse

/-- The first line of a text. -/
def firstLine (after : List Char) : List Char :=
  after.takeWhile (· ≠ '\n')

/-- The column at which a position lies. -/
def columnNumber (before : List Char) : Nat :=
  (lastLine before).length + 1

/-- The text before the first occurrence of a pattern and the text after it. -/
def cutAt (pattern : List Char) : List Char → Option (List Char × List Char)
  | [] => if pattern.isEmpty then some ([], []) else none
  | c :: rest =>
    if pattern.isPrefixOf (c :: rest) then some ([], (c :: rest).drop pattern.length)
    else (cutAt pattern rest).map fun (before, after) => (c :: before, after)

end DataRequests.Text
