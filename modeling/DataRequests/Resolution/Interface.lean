import DataRequests.Resolution.Reuse
import DataRequests.Resolution.Scan
import DataRequests.Resolution.Validation

/-!
# Resolving an interface

All methods of an interface are resolved together, and a fault never keeps the others from it: a method with faults is left
out and its faults are reported.

Later definitions of a name are reported and not resolved, but they still count when the method is looked up that another
one reuses. Methods that reuse no other are validated first, so that a reuse can only refer to a handle that is built.
Faults come in four blocks, each in the order of declaration: repeated names, what is declared wrongly, reuse and
validation, and params providers.
-/

namespace DataRequests

/-- A method of an interface, and whether an earlier one has its name. -/
structure Entry where
  method : Method
  isRepeated : Bool
  deriving DecidableEq, Repr

namespace Entry

/-- The methods of an interface as entries. `seen` holds the names of those before. -/
def mark (seen : List String) : List Method → List Entry
  | [] => []
  | m :: rest => ⟨m, m.name ∈ seen⟩ :: mark (m.name :: seen) rest

/-- Whether the entry is a params provider. -/
def isProvider (e : Entry) : Bool :=
  e.method.providerTarget.isSome

end Entry

namespace Interface

/-- The methods of an interface as entries. -/
def entries (i : Interface) : List Entry :=
  Entry.mark [] i.methods

/-- The request methods of an interface. -/
def requests (i : Interface) : List Entry :=
  i.entries.filter fun e => !e.isProvider

/-- The params providers of an interface. -/
def providers (i : Interface) : List Entry :=
  i.entries.filter (·.isProvider)

/-- The faults of some methods as errors of an interface. -/
def errors (i : Interface) (method : String) (faults : List Fault) : List ResolutionError :=
  faults.map (ResolutionError.mk i.name method)

end Interface

/-! ## The pool -/

/-- The handle that a method provides: that of a validated spec that reuses no other. -/
def Entry.handle? (defaults : Defaults) (e : Entry) : Option RequestSpec :=
  match e.method.prepare defaults with
  | .error _ => none
  | .ok spec => if spec.reuses.isNone then spec.validate.toOption else none

/-- Whether a method that reuses no other has failed. -/
def Entry.hasFailed (defaults : Defaults) (e : Entry) : Bool :=
  e.method.reuseTarget.isNone && (e.handle? defaults).isNone

/-- The methods of an interface that a reuse may refer to. -/
def Pool.ofEntries (defaults : Defaults) (requests : List Entry) : Pool where
  handles := requests.filterMap (·.handle? defaults)
  failed := (requests.filter (·.hasFailed defaults)).map (·.method.name)
  chained := requests.filterMap fun e => e.method.reuseTarget.map (e.method.name, ·)

/-! ## Requests -/

/-- A spec with its reuse resolved, or everything that is wrong with it. -/
def RequestSpec.finish (r : RequestSpec) (pool : Pool) : Except (List Fault) RequestSpec :=
  match r.resolveReuse pool with
  | .error fault => .error [fault]
  | .ok spec => spec.validate

/-- What is wrong with the declaration of a request. -/
def Entry.scanFaults (defaults : Defaults) (e : Entry) : List Fault :=
  match e.method.prepare defaults with
  | .error faults => if e.isRepeated then [] else faults
  | .ok _ => []

/-- What comes of a request whose declaration is in order: a spec, or what is wrong with it beside the other methods. -/
def Entry.outcome? (defaults : Defaults) (pool : Pool) (e : Entry) : Option (Except (List Fault) RequestSpec) :=
  match e.method.prepare defaults with
  | .error _ => none
  | .ok spec => if e.isRepeated then none else some (spec.finish pool)

/-- The spec of a request. -/
def Entry.spec? (defaults : Defaults) (pool : Pool) (e : Entry) : Option RequestSpec :=
  match e.outcome? defaults pool with
  | some (.ok spec) => some spec
  | _ => none

/-- What is wrong with a request beside the other methods. -/
def Entry.finishFaults (defaults : Defaults) (pool : Pool) (e : Entry) : List Fault :=
  match e.outcome? defaults pool with
  | some (.error faults) => faults
  | _ => []

/-! ## Params providers -/

/-- The kind whose source parameters a provider returns: that of the first such capability of its return type. -/
def TypeExpr.providedKind? (t : TypeExpr) : Option SourceKind :=
  (t.capabilities.findSome? fun
    | .sourceParams payload => some (payload.getD .network)
    | _ => none).filter (·.hasPayload)

/-- The fault that a provider does not return source parameters. -/
def Method.providedKindFaults (m : Method) : List Fault :=
  match m.returnType.providedKind? with
  | some _ => []
  | none =>
    [.invalidReturnType m.returnType.render "a params provider must return network or database source params"]

/-- The fault that a provider does not match its target: the target is a request, and the two query by the same names in the
same order. -/
def Method.targetFaults (m : Method) (target : String) (requests : List Method) : List Fault :=
  match requests.find? (·.name = target) with
  | none => [.unknownProviderTarget target]
  | some request =>
    let expected := queryNames request.resolvedParameters
    let found := queryNames m.resolvedParameters
    if expected = found then [] else [.providerShapeMismatch target expected found]

/-- Everything that is wrong with a params provider. -/
def Method.providerFaults (m : Method) (target : String) (requests : List Method) : List Fault :=
  m.providedKindFaults ++ specialParameterFaults m.resolvedParameters ++ m.targetFaults target requests

/-- The spec of a params provider, or everything that is wrong with it. -/
def Method.resolveProvider (m : Method) (requests : List Method) : Except (List Fault) ProviderSpec :=
  let target := m.providerTarget.getD ""
  match m.returnType.providedKind?, m.providerFaults target requests with
  | some kind, [] => .ok ⟨m.name, target, kind, m.returnType.render, m.resolvedParameters⟩
  | _, faults => .error faults

/-- The spec of a provider. -/
def Entry.provider? (requests : List Method) (e : Entry) : Option ProviderSpec :=
  if e.isRepeated then none else (e.method.resolveProvider requests).toOption

/-- What is wrong with a provider. -/
def Entry.providerFaults (requests : List Method) (e : Entry) : List Fault :=
  if e.isRepeated then []
  else
    match e.method.resolveProvider requests with
    | .error faults => faults
    | .ok _ => []

/-! ## Interfaces -/

namespace Interface

/-- The defaults that the methods of an interface see. -/
def defaults (i : Interface) (outer : Defaults) : Defaults :=
  outer.forInterface i.config i.network

/-- The methods that a reuse in an interface may refer to. -/
def pool (i : Interface) (outer : Defaults) : Pool :=
  .ofEntries (i.defaults outer) i.requests

/-- The request methods that a params provider of an interface may refer to. -/
def requestMethods (i : Interface) : List Method :=
  (i.requests.filter fun e => !e.isRepeated).map (·.method)

/-- The resolved methods of an interface. -/
def spec (i : Interface) (outer : Defaults) : InterfaceSpec :=
  let defaults := i.defaults outer
  let pool := i.pool outer
  let methods := i.requestMethods
  .ofMethods i.name (i.requests.filterMap (·.spec? defaults pool)) (i.providers.filterMap (·.provider? methods))

/-- The repeated names of an interface. -/
def repeatErrors (i : Interface) : List ResolutionError :=
  (i.entries.filter (·.isRepeated)).flatMap fun e => i.errors e.method.name [.duplicateMethod]

/-- What is declared wrongly in an interface. -/
def scanErrors (i : Interface) (outer : Defaults) : List ResolutionError :=
  let defaults := i.defaults outer
  i.requests.flatMap fun e => i.errors e.method.name (e.scanFaults defaults)

/-- What is wrong with the requests of an interface beside each other. -/
def finishErrors (i : Interface) (outer : Defaults) : List ResolutionError :=
  let defaults := i.defaults outer
  let pool := i.pool outer
  i.requests.flatMap fun e => i.errors e.method.name (e.finishFaults defaults pool)

/-- What is wrong with the params providers of an interface. -/
def providerErrors (i : Interface) : List ResolutionError :=
  let methods := i.requestMethods
  i.providers.flatMap fun e => i.errors e.method.name (e.providerFaults methods)

/-- Everything that is wrong with an interface. -/
def allErrors (i : Interface) (outer : Defaults) : List ResolutionError :=
  i.repeatErrors ++ i.scanErrors outer ++ i.finishErrors outer ++ i.providerErrors

/-- Resolves an interface under the defaults around it: its specs, and everything that is wrong with it. -/
def resolve (i : Interface) (outer : Defaults) : InterfaceSpec × List ResolutionError :=
  (i.spec outer, i.allErrors outer)

end Interface

end DataRequests
