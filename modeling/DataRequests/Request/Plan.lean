import DataRequests.Request.Spec

/-!
# Plans

What an emitter asks of the resolved methods, so that it need not derive any order or restriction itself: the sources a
handle is built from, the order in which a lookup reads, the sources a request is sent to, and the inputs of the
constructor.
-/

namespace DataRequests

namespace RequestSpec

/-- Whether a request has a data-access handle of its own. It has none when it reuses that of another method, receives it
through the constructor, or does not need one. -/
def ownsHandle (r : RequestSpec) : Bool :=
  r.reuses.isNone && !r.boundInConstructor && r.returnKind != .sourceParamsOnly && r.returnKind != .rawTransportCall

/-- The sources from which the request's own handle is built, in construction order. -/
def handleSources (r : RequestSpec) : Option (List SourceKind) :=
  if r.ownsHandle then some r.sources.enabledKinds else none

/-- The order in which a lookup reads: memory, and then the storage that is enabled. -/
def syncReadOrder (r : RequestSpec) : List SourceKind :=
  if r.returnKind = .syncLookup then
    (if r.sources.memory.enabled then [.memory] else []) ++
      (if r.sources.database.enabled then [.database]
       else if r.sources.keyValueStore.enabled then [.keyValueStore]
       else [])
  else []

/-- The sources to which an asynchronous request attaches parameters made from its query. One that is restricted to its
targets leaves out what it does not declare, unless its handle comes through the constructor. -/
def requestSources (r : RequestSpec) : List SourceKind :=
  if r.returnKind = .asyncRequest then
    [SourceKind.database, SourceKind.network].filter fun kind =>
      r.sources.isEnabled kind && (r.sources.isDeclared kind || !r.targetsOnly || r.boundInConstructor)
  else []

/-- The sources to which a request is restricted; none when it is not restricted. -/
def targetSources (r : RequestSpec) : List SourceKind :=
  if r.targetsOnly then r.sources.declaredKinds else []

end RequestSpec

/-- A handle that the constructor receives. -/
structure ExternalBinding where
  bindingName : String
  dataType : String
  optional : Bool
  deriving DecidableEq, Repr

/-- A delegate of a key-value store that the constructor receives. -/
structure StoreDelegate where
  fieldName : String
  delegateType : String
  deriving DecidableEq, Repr

/-- The inputs of the constructor of an interface. -/
structure ConstructorShape where
  transportClient : Bool
  keyValueStorage : Bool
  externalBindings : List ExternalBinding
  storeDelegates : List StoreDelegate
  /-- Whether there is a second constructor that leaves optional bindings out. -/
  emitsOptionalConstructor : Bool
  deriving DecidableEq, Repr

/-- The binding that a request asks of the constructor. -/
def RequestSpec.externalBinding? (r : RequestSpec) : Option ExternalBinding :=
  if r.boundInConstructor && r.reuses.isNone then
    some ⟨r.bindingName, r.dataType, r.optionalBinding⟩
  else none

/-- The delegate that a request asks of the constructor: one that declares a key-value store with a delegate type. -/
def RequestSpec.storeDelegate? (r : RequestSpec) : Option StoreDelegate :=
  if r.sources.keyValueStore.declared then
    r.sources.keyValueStore.options.delegateType.map
      (StoreDelegate.mk r.sources.keyValueStore.options.storageFieldName)
  else none

/-- The inputs of the constructor of an interface. -/
def InterfaceSpec.constructorShape (i : InterfaceSpec) : ConstructorShape where
  transportClient := i.hasNetwork
  keyValueStorage := i.hasKeyValueStore
  externalBindings := i.requests.filterMap RequestSpec.externalBinding?
  storeDelegates := i.requests.filterMap RequestSpec.storeDelegate?
  emitsOptionalConstructor := i.hasOptionalBinding

end DataRequests
