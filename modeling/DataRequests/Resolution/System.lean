import DataRequests.Arena
import DataRequests.Resolution.Interface

/-!
# Resolving a document

The interfaces of a document are resolved one after the other, each under the defaults of the document. A later interface of
a name is reported, and its methods are not looked at.
-/

namespace DataRequests

/-- The resolved interfaces of a document, by name. -/
structure ResolvedSystem where
  interfaces : Arena InterfaceSpec
  deriving DecidableEq, Repr

/-- The system without interfaces. -/
def ResolvedSystem.empty : ResolvedSystem :=
  ⟨.empty⟩

/-- The error that an interface has the name of an earlier one. -/
def Interface.duplicateError (i : Interface) : ResolutionError :=
  ⟨i.name, i.name, .duplicateInterface⟩

/-- Resolves one more interface. -/
def ResolvedSystem.step (defaults : Defaults) (state : ResolvedSystem × List ResolutionError) (i : Interface) :
    ResolvedSystem × List ResolutionError :=
  if state.1.interfaces.contains i.name then (state.1, state.2 ++ [i.duplicateError])
  else
    let (spec, errors) := i.resolve defaults
    (⟨state.1.interfaces.insert i.name spec⟩, state.2 ++ errors)

namespace Document

/-- The defaults of a document over the outermost ones. -/
def defaults (d : Document) (outer : Defaults) : Defaults :=
  outer.overlay? d.config

/-- Resolves a document under the outermost defaults: its interfaces, and everything that is wrong with it. -/
def resolve (d : Document) (outer : Defaults) : ResolvedSystem × List ResolutionError :=
  d.interfaces.foldl (ResolvedSystem.step (d.defaults outer)) (.empty, [])

/-- The resolved interfaces of a document, or everything that is wrong with it. -/
def build (d : Document) (outer : Defaults) : Except (List ResolutionError) ResolvedSystem :=
  match d.resolve outer with
  | (system, []) => .ok system
  | (_, errors) => .error errors

end Document

end DataRequests
