import DataRequests.Request.Parameter

/-!
# Specs

What resolution makes of a method: a `RequestSpec` for a request, a `ProviderSpec` for a method that only builds the source
parameters of another request. The specs of an interface are an `InterfaceSpec`.
-/

namespace DataRequests

/-- How a request hands its result back. -/
inductive ReturnKind where
  /-- The stored value itself, read from memory and then from storage. -/
  | syncLookup
  /-- A request that executes against the enabled sources. -/
  | asyncRequest
  /-- The raw transport call. -/
  | rawTransportCall
  /-- The source parameters that a request would use. -/
  | sourceParamsOnly
  /-- The shared data-access handle. -/
  | controllerReference
  deriving DecidableEq, Repr

/-- A resolved request method. -/
structure RequestSpec where
  name : String
  /-- The name of the field that holds the handle: that of the method, or of the method it reuses. -/
  bindingName : String
  returnKind : ReturnKind
  dataType : String
  /-- The data type without one level of type arguments. -/
  elementType : String
  sources : SourceConfigs
  parameters : List ResolvedParameter
  reuses : Option String
  targetsOnly : Bool
  /-- Whether the handle comes through the constructor. -/
  boundInConstructor : Bool
  optionalBinding : Bool
  isController : Bool
  cancelPrevious : Bool
  /-- For source parameters, the kind whose payload they carry. -/
  payloadBuilder : Option SourceKind
  forwarded : List String
  deriving DecidableEq, Repr

/-- A method that builds the source parameters of a request. -/
structure ProviderSpec where
  name : String
  target : String
  payloadKind : SourceKind
  returnType : String
  parameters : List ResolvedParameter
  deriving DecidableEq, Repr

/-- The resolved methods of an interface. -/
structure InterfaceSpec where
  name : String
  requests : List RequestSpec
  providers : List ProviderSpec
  hasNetwork : Bool
  hasKeyValueStore : Bool
  hasOptionalBinding : Bool
  deriving DecidableEq, Repr

namespace InterfaceSpec

/-- The spec of an interface with given methods. -/
def ofMethods (name : String) (requests : List RequestSpec) (providers : List ProviderSpec) : InterfaceSpec where
  name := name
  requests := requests
  providers := providers
  hasNetwork := requests.any (·.sources.network.enabled)
  hasKeyValueStore := requests.any (·.sources.keyValueStore.enabled)
  hasOptionalBinding := requests.any (·.optionalBinding)

/-- The first request with a given name. -/
def request? (i : InterfaceSpec) (name : String) : Option RequestSpec :=
  i.requests.find? (·.name = name)

end InterfaceSpec

end DataRequests
