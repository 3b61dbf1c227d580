import DataRequests.Text.Position

/-!
# Spans

A span is a stretch of a text together with what stands before and after it, so that a span always lies in its text. The
span of a declaration is its quoted name (`Span.declaration?`).
-/

namespace DataRequests

/-- A stretch of a text. -/
structure Span where
  before : List Char
  text : List Char
  after : List Char
  deriving DecidableEq, Repr

namespace Span

/-- The text in which a span lies. -/
def source (s : Span) : List Char :=
  s.before ++ s.text ++ s.after

/-- The offset at which a span starts, in bytes. -/
def start (s : Span) : Nat :=
  Text.byteLength s.before

/-- The offset at which a span ends, in bytes. -/
def stop (s : Span) : Nat :=
  s.start + Text.byteLength s.text

/-- The line on which a span starts. -/
def line (s : Span) : Nat :=
  Text.lineNumber s.before

/-- The column at which a span starts. -/
def column (s : Span) : Nat :=
  Text.columnNumber s.before

/-- The line on which a span ends. -/
def stopLine (s : Span) : Nat :=
  Text.lineNumber (s.before ++ s.text)

/-- The column of the last character of a span. -/
def lastColumn (s : Span) : Nat :=
  Text.columnNumber (s.before ++ s.text) - 1

/-- A line without the carriage returns at its end. -/
def withoutReturns (line : List Char) : List Char :=
  (line.reverse.dropWhile (· = '\r')).reverse

/-- The whole lines on which a span lies. -/
def lines (s : Span) : List (List Char) :=
  ((Text.lastLine s.before ++ s.text ++ Text.firstLine s.after).splitOn '\n').map withoutReturns

/-- A name between quotation marks. -/
def quotedName (name : String) : List Char :=
  '"' :: (name.toList ++ ['"'])

/-- The first occurrence of a pattern in a text, of which `before` is skipped. -/
def first? (pattern before text : List Char) : Option Span :=
  (Text.cutAt pattern text).map fun (skipped, after) => ⟨before ++ skipped, pattern, after⟩

/-- Cuts a text where a quoted name first occurs, or else at its start. -/
def cutBefore (name : String) (text : List Char) : List Char × List Char :=
  match Text.cutAt (quotedName name) text with
  | some (before, after) => (before, quotedName name ++ after)
  | none => ([], text)

/-- The quoted name of a method: the first one from the quoted name of its interface on, or else the first one anywhere. -/
def declaration? (interface method : String) (text : List Char) : Option Span :=
  let (before, rest) := cutBefore interface text
  (first? (quotedName method) before rest).or (first? (quotedName method) [] text)

end Span

end DataRequests
