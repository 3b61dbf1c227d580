import DataRequests.Diagnostic
import DataRequests.Text.Range

/-!
# Rendering diagnostics

A diagnostic is a headline and, if it has a span, a drawing of the place: the position, an empty row, and the lines of the
text with marks. A span on one line is marked under each of its characters. One that goes over several lines is bracketed:
a bar in front of its lines leads from a mark under its first character to one under its last character, and of many lines
only the first and the last ones are shown. The label stands after the marks.

All rows of a list of diagnostics have a margin of the same width, wide enough for the largest line number. The rows of all
diagnostics are followed by an empty one.
-/

namespace DataRequests

/-- The digits of a number. -/
def decimalDigits (n : Nat) : List Char :=
  Nat.toDigits 10 n

/-- A text with spaces after it up to a width. -/
def padRight (width : Nat) (cs : List Char) : List Char :=
  cs ++ List.replicate (width - cs.length) ' '

/-- A row with a tab for each space that stands under a tab of the row above. -/
def alignTabs : List Char → List Char → List Char
  | a :: above, c :: row => (if a = '\t' ∧ c = ' ' then '\t' else c) :: alignTabs above row
  | _, row => row

/-- Rows with a tab for each space that stands under a tab of the first one. -/
def alignRows : List (List Char) → List (List Char)
  | [] => []
  | first :: rest => first :: rest.map (alignTabs first)

namespace Diagnostic

/-! ## Rows -/

/-- The row with the code and the message. -/
def headline (d : Diagnostic) : List Char :=
  ("error[" ++ d.code ++ "]: " ++ d.message).toList

/-- The row that says where a span is. -/
def placeRow (file : String) (margin : Nat) (s : Span) : List Char :=
  List.replicate margin ' ' ++ "--> ".toList ++ file.toList ++ ':' :: decimalDigits s.line ++ ':' :: decimalDigits s.column

/-- The empty row above the text. -/
def emptyRow (margin : Nat) : List Char :=
  List.replicate margin ' ' ++ [' ', '|']

/-- The row of a line of the text. -/
def lineRow (margin number : Nat) (cs : List Char) : List Char :=
  padRight margin (decimalDigits number) ++ [' ', '|', ' '] ++ cs

/-- A row with marks. -/
def markRow (margin : Nat) (cs : List Char) : List Char :=
  List.replicate margin ' ' ++ [' ', '|', ' '] ++ cs

/-- The row that stands for lines which are left out. -/
def ellipsisRow (margin : Nat) : List Char :=
  ['.', '.', '.'] ++ List.replicate margin ' ' ++ ['|']

/-! ## Drawings -/

/-- The rows of a span on one line. -/
def lineRows (margin : Nat) (s : Span) (label : String) (line : List Char) : List (List Char) :=
  [lineRow margin s.line line,
   markRow margin (List.replicate (s.column - 1) ' ' ++ List.replicate s.text.length '^' ++ ' ' :: label.toList)]

/-- The rows in which a bracket begins. When only blanks stand before the span, the bracket begins beside the line. -/
def openingRows (margin : Nat) (s : Span) (line : List Char) : List (List Char) :=
  if (Text.lastLine s.before).all Text.isBlank then [lineRow margin s.line ('/' :: ' ' :: line)]
  else
    [lineRow margin s.line (' ' :: ' ' :: line), markRow margin (' ' :: List.replicate s.column '_' ++ ['^'])]

/-- The rows within a bracket. More than five are cut down to the first three and the last one. -/
def innerRows (margin : Nat) (s : Span) (lines : List (List Char)) : List (List Char) :=
  let rows := lines.mapIdx fun i line =>
    lineRow margin (s.line + i + 1) ('|' :: (if line.isEmpty then [] else ' ' :: line))
  if rows.length ≤ 5 then rows else rows.take 3 ++ ellipsisRow margin :: rows.drop (rows.length - 1)

/-- The rows in which a bracket ends. -/
def closingRows (margin : Nat) (s : Span) (label : String) (line : List Char) : List (List Char) :=
  [lineRow margin s.stopLine ('|' :: ' ' :: line),
   markRow margin ('|' :: List.replicate s.lastColumn '_' ++ '^' :: ' ' :: label.toList)]

/-- The lines of a span with its marks. -/
def drawing (margin : Nat) (s : Span) (label : String) : List (List Char) :=
  match s.lines with
  | [] => []
  | [line] => lineRows margin s label line
  | first :: rest =>
    openingRows margin s first ++ innerRows margin s rest.dropLast ++ closingRows margin s label (rest.getLastD [])

/-- The rows of a diagnostic. -/
def rows (file : String) (margin : Nat) (d : Diagnostic) : List (List Char) :=
  match d.span with
  | none => [d.headline]
  | some s => d.headline :: placeRow file margin s :: emptyRow margin :: alignRows (drawing margin s d.label)

/-- The width of the margin: that of the largest line number, or one. -/
def margin (diagnostics : List Diagnostic) : Nat :=
  ((diagnostics.filterMap (·.span)).map fun s => (decimalDigits s.stopLine).length).foldl max 1

/-- The rendered form of some diagnostics about a file. -/
def render (file : String) (diagnostics : List Diagnostic) : String :=
  let rows := diagnostics.flatMap (rows file (margin diagnostics))
  String.ofList ((rows ++ [[]]).flatMap (· ++ ['\n']))

end Diagnostic

end DataRequests
