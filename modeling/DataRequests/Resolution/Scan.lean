import DataRequests.Resolution.Markers
import DataRequests.Resolution.ReturnShape
import DataRequests.Resolution.SpecialParameters
import DataRequests.Text.LowerCamelCase

/-!
# Scanning a method

What is declared on a method itself becomes a spec: its markers give the sources, its return type the shape of the result,
its parameters their roles. Options that the method leaves unset take the defaults. A method that has nothing to find its
sources by is refused (`RequestSpec.intentFault?`); the sources enabled by default are only known once the reused handle is.
-/

namespace DataRequests

/-! ## Sources -/

/-- The network source of a method: declared by the marker of the network and as much by a transport binding. -/
def scanNetwork (marker : Option NetworkMarker) (transport : Option Transport) : SourceConfig NetworkOptions :=
  match marker, transport with
  | none, none => .absent {}
  | _, _ =>
    let content := marker.getD {}
    .declare
      { responseTransform := content.responseTransform
        errorTransform := content.errorTransform
        refreshStrategy := content.refreshStrategy
        callReturnType := content.callReturnType
        transport := transport }

/-- The database source of a method. The shape of the result follows the data type even where the database is not declared. -/
def scanDatabase (marker : Option DatabaseMarker) (isSingleResult : Bool) : SourceConfig DatabaseOptions :=
  match marker with
  | none => .absent { isSingleResult := isSingleResult }
  | some content =>
    .declare
      { isSingleResult := isSingleResult
        isAsync := content.isAsync
        refreshStrategy := content.refreshStrategy }

/-- The memory source of a method. -/
def scanMemory : Option MemoryMarker → SourceConfig MemoryOptions
  | none => .absent {}
  | some content => .declare { refreshStrategy := content.refreshStrategy }

/-- The field that keeps the delegate of a method's store. -/
def storageFieldName (method : String) : String :=
  Text.lowerCamelCase (method ++ "StoreDelegate")

/-- The key-value store of a method. The delegate may be left out here: a reused method may have it. -/
def scanKeyValueStore (marker : Option KeyValueStoreMarker) (method : String) : SourceConfig KeyValueStoreOptions :=
  match marker with
  | none => .absent { storageFieldName := storageFieldName method }
  | some content =>
    .declare
      { delegateType := content.delegate
        storageFieldName := storageFieldName method
        refreshStrategy := content.refreshStrategy }

/-- The sources that the markers of a method declare. -/
def Markers.sources (m : Markers) (method : String) (isSingleResult : Bool) : SourceConfigs where
  network := scanNetwork m.network m.transport
  database := scanDatabase m.database isSingleResult
  memory := scanMemory m.memory
  keyValueStore := scanKeyValueStore m.keyValueStore method

/-! ## Specs -/

/-- The parameters of a method with their roles. -/
def Method.resolvedParameters (m : Method) : List ResolvedParameter :=
  m.parameters.map Parameter.resolve

/-- The fault that a controller reference has parameters. -/
def controllerFaults (isController : Bool) (parameters : List ResolvedParameter) : List Fault :=
  if isController && !parameters.isEmpty then [.parametersOnController parameters.length] else []

/-- The spec of a method with given markers and return shape. -/
def Method.specOf (m : Method) (markers : Markers) (shape : ReturnShape) (defaults : Defaults) : RequestSpec where
  name := m.name
  bindingName := m.name
  returnKind := shape.returnKind
  dataType := shape.dataType
  elementType := shape.elementType
  sources := (markers.sources m.name shape.isSingleResult).withDefaults defaults
  parameters := m.resolvedParameters
  reuses := markers.reuse
  targetsOnly := markers.targets
  boundInConstructor := markers.controller.any fun c => c.inConstructor || c.optional
  optionalBinding := markers.controller.any (·.optional)
  isController := markers.controller.isSome
  cancelPrevious := markers.cancelPrevious
  payloadBuilder := shape.payloadBuilder
  forwarded := markers.forwarded

/-- The spec of what is declared on a method, or everything that is wrong there: repeated markers alone, or else the faults
of the parameters and that of the return type. -/
def Method.scan (m : Method) (defaults : Defaults) : Except (List Fault) RequestSpec :=
  match Markers.collect m.markers with
  | .error faults => .error faults
  | .ok markers =>
    let isController := markers.controller.isSome
    let faults :=
      specialParameterFaults m.resolvedParameters ++ controllerFaults isController m.resolvedParameters
    match ReturnShape.ofType m.returnType isController with
    | .error fault => .error (faults ++ [fault])
    | .ok shape => if faults.isEmpty then .ok (m.specOf markers shape defaults) else .error faults

/-- The fault of a method that neither declares a source nor reuses another method. A controller reference may have its
handle from the constructor instead. -/
def RequestSpec.intentFault? (r : RequestSpec) : Option Fault :=
  if !r.sources.declaresAny && r.reuses.isNone && !(r.isController && r.boundInConstructor) then
    some (.missingSourceIntent r.isController)
  else none

/-- The spec of a method that has a way to find its sources. -/
def Method.prepare (m : Method) (defaults : Defaults) : Except (List Fault) RequestSpec :=
  match m.scan defaults with
  | .error faults => .error faults
  | .ok spec =>
    match spec.intentFault? with
    | some fault => .error [fault]
    | none => .ok spec

end DataRequests
