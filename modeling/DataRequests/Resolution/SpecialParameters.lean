import DataRequests.Request.Parameter
import DataRequests.Resolution.Fault

/-!
# Special parameters

A method has at most one error filter, at most one object of source parameters for the whole request, and at most one
payload for each kind of source. Queries and callbacks are not restricted.
-/

namespace DataRequests

/-- The roles of which a method has at most one parameter. -/
inductive SpecialRole where
  | errorFilter
  | sourceParams
  | payload (kind : SourceKind)
  deriving DecidableEq, Repr

namespace SpecialRole

/-- The special roles, in the order in which they are reported. -/
def all : List SpecialRole :=
  .errorFilter :: .sourceParams :: SourceKind.all.map .payload

/-- The words for a role. -/
def name : SpecialRole → String
  | .errorFilter => "error filter"
  | .sourceParams => "source params"
  | .payload kind => kind.name ++ " payload"

/-- Whether a parameter plays a special role. A payload is one of its kind whatever it carries. -/
def isPlayedBy (role : SpecialRole) (p : ResolvedParameter) : Bool :=
  match role, p.role with
  | .errorFilter, .errorFilter => true
  | .sourceParams, .opaqueSourceParams => true
  | .payload kind, .sourcePayload k _ => kind = k
  | _, _ => false

/-- The declared names of the parameters that play a role, in order. -/
def players (role : SpecialRole) (parameters : List ResolvedParameter) : List String :=
  (parameters.filter role.isPlayedBy).map (·.declaredName)

/-- The fault that several parameters play a role. -/
def fault? (role : SpecialRole) (parameters : List ResolvedParameter) : Option Fault :=
  if (role.players parameters).length > 1 then
    some (.duplicateSpecialParameter role.name (role.players parameters))
  else none

end SpecialRole

/-- A fault for each special role that several parameters play. -/
def specialParameterFaults (parameters : List ResolvedParameter) : List Fault :=
  SpecialRole.all.filterMap (·.fault? parameters)

end DataRequests
