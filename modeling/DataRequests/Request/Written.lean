import DataRequests.Arena.Written
import DataRequests.Declaration.Written
import DataRequests.Request.Plan
import DataRequests.Resolution.System

/-!
# The written form of resolved systems

A resolved system is written with every field, absent options as `null`, the interfaces as an arena.
-/

namespace DataRequests

/-- The configuration of a kind of source as JSON. -/
def SourceConfig.toJson {Options : Type} (write : Options → Json) (s : SourceConfig Options) : Json :=
  .object
    [("enabled", .boolean s.enabled), ("declared_directly", .boolean s.declared), ("options", write s.options)]

/-- The options of the network as JSON. -/
def NetworkOptions.toJson (o : NetworkOptions) : Json :=
  .object
    [("response_transform", optionalText o.responseTransform),
     ("error_transform", optionalText o.errorTransform),
     ("refresh_strategy", optionalText o.refreshStrategy),
     ("call_return_type", optionalText o.callReturnType),
     ("transport", Json.ofOption Transport.toJson o.transport)]

/-- The options of a database as JSON. -/
def DatabaseOptions.toJson (o : DatabaseOptions) : Json :=
  .object
    [("is_single_result", .boolean o.isSingleResult),
     ("is_async", .boolean o.isAsync),
     ("refresh_strategy", optionalText o.refreshStrategy)]

/-- The options of memory as JSON. -/
def MemoryOptions.toJson (o : MemoryOptions) : Json :=
  .object [("refresh_strategy", optionalText o.refreshStrategy)]

/-- The options of a key-value store as JSON. -/
def KeyValueStoreOptions.toJson (o : KeyValueStoreOptions) : Json :=
  .object
    [("delegate_type", optionalText o.delegateType),
     ("storage_field_name", .string o.storageFieldName),
     ("refresh_strategy", optionalText o.refreshStrategy)]

/-- The configurations of the four kinds as JSON. -/
def SourceConfigs.toJson (s : SourceConfigs) : Json :=
  .object
    [("network", s.network.toJson NetworkOptions.toJson),
     ("database", s.database.toJson DatabaseOptions.toJson),
     ("memory", s.memory.toJson MemoryOptions.toJson),
     ("key_value_store", s.keyValueStore.toJson KeyValueStoreOptions.toJson)]

/-- The role of a parameter as JSON. -/
def ParameterRole.toJson : ParameterRole → Json
  | .query => .string "query"
  | .callback => .string "callback"
  | .errorFilter => .string "error-filter"
  | .sourcePayload kind carries =>
    .object [("source-payload", .object [("kind", kind.toJson), ("carries_source_params", .boolean carries)])]
  | .opaqueSourceParams => .string "opaque-source-params"

/-- A parameter with its role as JSON. -/
def ResolvedParameter.toJson (p : ResolvedParameter) : Json :=
  .object
    [("declared_name", .string p.declaredName),
     ("name", .string p.name),
     ("type_name", .string p.typeName),
     ("role", p.role.toJson)]

namespace ReturnKind

/-- The name of a way to hand a result back. -/
def name : ReturnKind → String
  | .syncLookup => "sync-lookup"
  | .asyncRequest => "async-request"
  | .rawTransportCall => "raw-transport-call"
  | .sourceParamsOnly => "source-params-only"
  | .controllerReference => "controller-reference"

/-- All ways to hand a result back. -/
def all : List ReturnKind :=
  [.syncLookup, .asyncRequest, .rawTransportCall, .sourceParamsOnly, .controllerReference]

/-- A way to hand a result back as JSON. -/
def toJson (k : ReturnKind) : Json :=
  .string k.name

end ReturnKind

/-- A resolved request as JSON. -/
def RequestSpec.toJson (r : RequestSpec) : Json :=
  .object
    [("name", .string r.name),
     ("binding_name", .string r.bindingName),
     ("return_kind", r.returnKind.toJson),
     ("data_type", .string r.dataType),
     ("element_type", .string r.elementType),
     ("sources", r.sources.toJson),
     ("parameters", Json.ofList ResolvedParameter.toJson r.parameters),
     ("reuses", optionalText r.reuses),
     ("targets_only", .boolean r.targetsOnly),
     ("bound_in_constructor", .boolean r.boundInConstructor),
     ("optional_binding", .boolean r.optionalBinding),
     ("controller_reference", .boolean r.isController),
     ("cancel_previous", .boolean r.cancelPrevious),
     ("payload_builder", Json.ofOption SourceKind.toJson r.payloadBuilder),
     ("forwarded_annotations", Json.ofList .string r.forwarded)]

/-- A params provider as JSON. -/
def ProviderSpec.toJson (p : ProviderSpec) : Json :=
  .object
    [("name", .string p.name),
     ("target", .string p.target),
     ("payload_kind", p.payloadKind.toJson),
     ("return_type", .string p.returnType),
     ("parameters", Json.ofList ResolvedParameter.toJson p.parameters)]

/-- A resolved interface as JSON. -/
def InterfaceSpec.toJson (i : InterfaceSpec) : Json :=
  .object
    [("name", .string i.name),
     ("requests", Json.ofList RequestSpec.toJson i.requests),
     ("params_providers", Json.ofList ProviderSpec.toJson i.providers),
     ("has_network", .boolean i.hasNetwork),
     ("has_key_value_store", .boolean i.hasKeyValueStore),
     ("has_optional_binding", .boolean i.hasOptionalBinding)]

/-- A resolved system as JSON. -/
def ResolvedSystem.toJson (s : ResolvedSystem) : Json :=
  .object [("interfaces", s.interfaces.toJson InterfaceSpec.toJson)]

/-- A list of kinds as JSON. -/
def kindsToJson : List SourceKind → Json :=
  Json.ofList SourceKind.toJson

/-- The inputs of a constructor as JSON. -/
def ConstructorShape.toJson (c : ConstructorShape) : Json :=
  .object
    [("transport_client", .boolean c.transportClient),
     ("key_value_storage", .boolean c.keyValueStorage),
     ("external_bindings",
      Json.ofList
        (fun b : ExternalBinding =>
          .object
            [("binding_name", .string b.bindingName), ("data_type", .string b.dataType),
             ("optional", .boolean b.optional)])
        c.externalBindings),
     ("store_delegates",
      Json.ofList
        (fun d : StoreDelegate =>
          .object [("field_name", .string d.fieldName), ("delegate_type", .string d.delegateType)])
        c.storeDelegates),
     ("emits_optional_constructor", .boolean c.emitsOptionalConstructor)]

end DataRequests
