import DataRequests.Diagnostic.Span
import DataRequests.Resolution.Fault

/-!
# Diagnostics

A diagnostic says what is wrong and, where the text of the document is known and names the method, points at the place.
-/

namespace DataRequests

/-- What is said about one error. -/
structure Diagnostic where
  code : String
  message : String
  /-- The place of the error in the text. -/
  span : Option Span
  /-- What is said at that place. -/
  label : String
  deriving DecidableEq, Repr

/-- The name of the method that an error is about, with its interface. An error of an interface has only that name. -/
def ResolutionError.subject (e : ResolutionError) : String :=
  if e.interface = e.method then e.interface else e.interface ++ "." ++ e.method

/-- The diagnostic of an error in a document with a given text. -/
def ResolutionError.diagnostic (e : ResolutionError) (text : Option String) : Diagnostic where
  code := e.fault.code
  message := e.subject ++ ": " ++ e.fault.message
  span := text.bind fun t => Span.declaration? e.interface e.method t.toList
  label := e.fault.message

end DataRequests
