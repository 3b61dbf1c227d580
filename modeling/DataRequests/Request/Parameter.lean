import DataRequests.Declaration.Document

/-!
# Roles of parameters

Each parameter of a method plays one role. A payload tag decides it before the type does, and of the capabilities of the
type the callback counts before the error filter and this before source parameters; a parameter with none of these queries
the sources.
-/

namespace DataRequests

/-- The role that a parameter plays. -/
inductive ParameterRole where
  /-- An ordinary value that queries the sources. -/
  | query
  /-- Receives the result of the request. -/
  | callback
  | errorFilter
  /-- A payload for one kind of source. Where it carries source parameters it replaces the generated ones of that kind,
  otherwise it is attached to them. -/
  | sourcePayload (kind : SourceKind) (carriesSourceParams : Bool)
  /-- Source parameters that are applied to the whole request. -/
  | opaqueSourceParams
  deriving DecidableEq, Repr

/-- A parameter with its role. -/
structure ResolvedParameter where
  declaredName : String
  /-- The name on the outside. -/
  name : String
  typeName : String
  role : ParameterRole
  deriving DecidableEq, Repr

/-- Whether a parameter queries the sources. -/
def ResolvedParameter.isQuery (p : ResolvedParameter) : Bool :=
  p.role == .query

/-- The role that the type of a parameter gives it. -/
def TypeExpr.role (t : TypeExpr) : ParameterRole :=
  if t.has .callback then .callback
  else if t.has .errorFilter then .errorFilter
  else if t.isSourceParams then .opaqueSourceParams
  else .query

/-- The role of a parameter: that of its first payload tag, or else that of its type. -/
def Parameter.role (p : Parameter) : ParameterRole :=
  match p.tags.findSome? ParameterTag.payload? with
  | some kind => .sourcePayload kind p.type.isSourceParams
  | none => p.type.role

/-- The name of a parameter on the outside: that of its last renaming tag, or else its own. -/
def Parameter.outsideName (p : Parameter) : String :=
  (p.tags.reverse.findSome? ParameterTag.rename?).getD p.name

/-- A parameter with its role. -/
def Parameter.resolve (p : Parameter) : ResolvedParameter where
  declaredName := p.name
  name := p.outsideName
  typeName := p.type.render
  role := p.role

/-- The outside names of the parameters that query the sources, in order. -/
def queryNames (parameters : List ResolvedParameter) : List String :=
  (parameters.filter (·.isQuery)).map (·.name)

end DataRequests
