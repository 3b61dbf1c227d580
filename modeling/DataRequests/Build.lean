import DataRequests.Declaration.Reader
import DataRequests.Diagnostic.Rendering
import DataRequests.Resolution.System

/-!
# Building a system from a document's text

A text is read and resolved. What goes wrong is either that the text is no document, or everything that is wrong with the
document, which is then also rendered.
-/

namespace DataRequests

/-- Why a text gives no system. -/
inductive BuildError where
  | unreadable (error : Json.ReadError)
  | faulty (errors : List ResolutionError)
  deriving DecidableEq, Repr

/-- The wording of an error. -/
def BuildError.message : BuildError → String
  | .unreadable error => "Invalid declaration document: " ++ error.message
  | .faulty errors => "Could not resolve the declarations (" ++ toString errors.length ++ " errors)"

/-- What is shown of an error before its wording: the diagnostics of a faulty document. -/
def BuildError.rendered (file text : String) : BuildError → String
  | .unreadable _ => ""
  | .faulty errors => Diagnostic.render file (errors.map (·.diagnostic (some text)))

/-- The system that a document's text declares, under the outermost defaults. -/
def buildText (text : String) (outer : Defaults) : Except BuildError ResolvedSystem :=
  match Document.parse text with
  | .error e => .error (.unreadable e)
  | .ok document =>
    match document.build outer with
    | .error errors => .error (.faulty errors)
    | .ok system => .ok system

end DataRequests
