import DataRequests.Request.Spec
import DataRequests.Resolution.Fault

/-!
# The shape of a return type

What the declared return type says about a request. The wrapper of the type, if it has one, tells how the result is handed
back, and its only argument is the data; a type without a wrapper is the data itself. The handle is returned by controller
references and by nothing else.
-/

namespace DataRequests

/-- What a return type says about a request. -/
structure ReturnShape where
  returnKind : ReturnKind
  dataType : String
  elementType : String
  isSingleResult : Bool
  /-- For source parameters, the kind whose payload they carry. -/
  payloadBuilder : Option SourceKind
  deriving DecidableEq, Repr

/-- Whether source parameters can be built for a kind. -/
def SourceKind.hasPayload : SourceKind → Bool
  | .network | .database => true
  | _ => false

namespace TypeExpr

/-- How a type hands its data back, and the kind whose payload it carries, or the reason why it cannot be returned. -/
def returnKind (t : TypeExpr) (isController : Bool) : Except String (ReturnKind × Option SourceKind) :=
  match t.wrapper, isController with
  | some .controller, true => .ok (.controllerReference, none)
  | some .controller, false => .error "only a controller reference may return the controller handle"
  | _, true => .error "a controller reference must return the controller handle"
  | some .request, false => .ok (.asyncRequest, none)
  | some .call, false => .ok (.rawTransportCall, none)
  | some (.sourceParams payload), false =>
    let kind := payload.getD .network
    if kind.hasPayload then .ok (.sourceParamsOnly, some kind)
    else .error "source params can only be built for the network or the database"
  | _, false => .ok (.syncLookup, none)

/-- The data of a return type: the type itself in a lookup, and else its only argument. -/
def dataType? (t : TypeExpr) (kind : ReturnKind) : Option TypeExpr :=
  match kind, t.args with
  | .syncLookup, _ => some t
  | _, [data] => some data
  | _, _ => none

/-- The first argument of a type, or the type itself. -/
def element (t : TypeExpr) : TypeExpr :=
  t.args.headD t

end TypeExpr

/-- The shape of a return type, or the fault that it cannot be returned. -/
def ReturnShape.ofType (t : TypeExpr) (isController : Bool) : Except Fault ReturnShape :=
  match t.returnKind isController with
  | .error reason => .error (.invalidReturnType t.render reason)
  | .ok (kind, payload) =>
    match t.dataType? kind with
    | none => .error (.invalidReturnType t.render "expected exactly one type argument")
    | some data => .ok ⟨kind, data.render, data.element.render, !data.isList, payload⟩

end DataRequests
