import DataRequests.Declaration.Marker
import DataRequests.Declaration.Type
import DataRequests.Defaults

/-!
# Declaration documents

A document declares interfaces, one for each logical resource, and an interface declares methods. The document and each
interface may set defaults for the methods below them.
-/

namespace DataRequests

/-- What a parameter says beside its type. -/
inductive ParameterTag where
  /-- Another name for the outside. -/
  | rename (name : String)
  /-- The value goes to one kind of source only. -/
  | payload (source : SourceKind)
  deriving DecidableEq, Repr

/-- The name of a renaming tag. -/
def ParameterTag.rename? : ParameterTag → Option String
  | .rename name => some name
  | .payload _ => none

/-- The kind of a payload tag. -/
def ParameterTag.payload? : ParameterTag → Option SourceKind
  | .rename _ => none
  | .payload source => some source

/-- A parameter of a method. -/
structure Parameter where
  name : String
  type : TypeExpr
  tags : List ParameterTag := []
  deriving DecidableEq, Repr

/-- A method of an interface. -/
structure Method where
  name : String
  returnType : TypeExpr
  parameters : List Parameter := []
  markers : List Marker := []
  deriving DecidableEq, Repr

/-- The method that a method reuses: that of its first such marker. -/
def Method.reuseTarget (m : Method) : Option String :=
  m.markers.findSome? Marker.reuse?

/-- The request whose parameters a method builds, if it is a params provider: that of its first such marker. -/
def Method.providerTarget (m : Method) : Option String :=
  m.markers.findSome? Marker.paramsProvider?

/-- The declaration of one logical resource. -/
structure Interface where
  name : String
  config : Option Defaults := none
  network : Option NetworkDefaults := none
  methods : List Method := []
  deriving DecidableEq, Repr

/-- A declaration document. -/
structure Document where
  config : Option Defaults := none
  interfaces : List Interface
  deriving DecidableEq, Repr

end DataRequests
