import DataRequests.Declaration.Reader
import DataRequests.Request.Written

/-!
# Reading resolved systems

The written form of a resolved system can be read back. Members with other keys are passed over; an absent option may be
left out, every other field must be there.
-/

namespace DataRequests

/-- The parts of a resolved system. -/
inductive SpecPart where
  | system | arena | id | interface | request | provider
  | parameter | role | sourcePayload
  | sources | network | database | memory | keyValueStore
  | networkOptions | databaseOptions | memoryOptions | keyValueStoreOptions | transport
  | sourceKind | returnKind
  deriving DecidableEq, Repr

namespace SpecPart

/-- A record whose other keys are passed over. -/
def record (title : String) (fields : List (Json.Field SpecPart)) : Json.Part SpecPart :=
  .record { title := "struct " ++ title, fields := fields, strict := false }

/-- A text that must be there. -/
def textField (name : String) : Json.Field SpecPart :=
  ⟨name, .string, .missing⟩

/-- A flag that must be there. -/
def flagField (name : String) : Json.Field SpecPart :=
  ⟨name, .boolean, .missing⟩

/-- An option that may be left out. -/
def optionField (name : String) (shape : Json.Shape SpecPart) : Json.Field SpecPart :=
  ⟨name, .optional shape, .nullMember⟩

/-- A part that must be there. -/
def partField (name : String) (content : SpecPart) : Json.Field SpecPart :=
  ⟨name, .part content, .missing⟩

/-- A list that must be there. -/
def listField (name : String) (shape : Json.Shape SpecPart) : Json.Field SpecPart :=
  ⟨name, .list "a sequence" shape, .missing⟩

/-- The configuration of a kind of source. -/
def config (options : SpecPart) : Json.Part SpecPart :=
  record "SourceConfig" [flagField "enabled", flagField "declared_directly", partField "options" options]

/-- What each part of a resolved system is. `byPosition` tells whether the fields that go with a variant may be given by
position. -/
def schema (byPosition : Bool) : Json.Schema SpecPart
  | .system => record "ResolvedSystem" [partField "interfaces" .arena]
  | .arena => Arena.part (.part .interface) .id
  | .id => Arena.idPart
  | .interface =>
    record "InterfaceSpec"
      [textField "name", listField "requests" (.part .request), listField "params_providers" (.part .provider),
       flagField "has_network", flagField "has_key_value_store", flagField "has_optional_binding"]
  | .request =>
    record "RequestSpec"
      [textField "name", textField "binding_name", partField "return_kind" .returnKind, textField "data_type",
       textField "element_type", partField "sources" .sources, listField "parameters" (.part .parameter),
       optionField "reuses" .string, flagField "targets_only", flagField "bound_in_constructor",
       flagField "optional_binding", flagField "controller_reference", flagField "cancel_previous",
       optionField "payload_builder" (.part .sourceKind), listField "forwarded_annotations" .string]
  | .provider =>
    record "ParamsProviderSpec"
      [textField "name", textField "target", partField "payload_kind" .sourceKind, textField "return_type",
       listField "parameters" (.part .parameter)]
  | .parameter =>
    record "ResolvedParameter"
      [textField "declared_name", textField "name", textField "type_name", partField "role" .role]
  | .role =>
    .choice
      [⟨"query", .none⟩, ⟨"callback", .none⟩, ⟨"error-filter", .none⟩, ⟨"source-payload", .fields .sourcePayload⟩,
       ⟨"opaque-source-params", .none⟩]
  | .sourcePayload =>
    .record
      { title := "struct variant ParameterRole::SourcePayload"
        fields := [partField "kind" .sourceKind, flagField "carries_source_params"]
        strict := false
        positional := byPosition }
  | .sources =>
    record "SourceConfigs"
      [partField "network" .network, partField "database" .database, partField "memory" .memory,
       partField "key_value_store" .keyValueStore]
  | .network => config .networkOptions
  | .database => config .databaseOptions
  | .memory => config .memoryOptions
  | .keyValueStore => config .keyValueStoreOptions
  | .networkOptions =>
    record "NetworkOptions"
      [optionField "response_transform" .string, optionField "error_transform" .string,
       optionField "refresh_strategy" .string, optionField "call_return_type" .string,
       optionField "transport" (.part .transport)]
  | .databaseOptions =>
    record "DatabaseOptions"
      [flagField "is_single_result", flagField "is_async", optionField "refresh_strategy" .string]
  | .memoryOptions => record "MemoryOptions" [optionField "refresh_strategy" .string]
  | .keyValueStoreOptions =>
    record "KeyValueStoreOptions"
      [optionField "delegate_type" .string, textField "storage_field_name", optionField "refresh_strategy" .string]
  | .transport => record "TransportBinding" [textField "verb", textField "path"]
  | .sourceKind => .choice (SourceKind.all.map fun kind => ⟨kind.name, .none⟩)
  | .returnKind => .choice (ReturnKind.all.map fun kind => ⟨kind.name, .none⟩)

end SpecPart

/-- The configuration of a kind of source from its written form. -/
def SourceConfig.ofJson {Options : Type} (read : Json → Options) (j : Json) : SourceConfig Options where
  enabled := (j.field "enabled").isTrue
  declared := (j.field "declared_directly").isTrue
  options := read (j.field "options")

/-- The options of the network from their written form. -/
def NetworkOptions.ofJson (j : Json) : NetworkOptions where
  responseTransform := optionalTextOf (j.field "response_transform")
  errorTransform := optionalTextOf (j.field "error_transform")
  refreshStrategy := optionalTextOf (j.field "refresh_strategy")
  callReturnType := optionalTextOf (j.field "call_return_type")
  transport := (j.field "transport").option Transport.ofJson

/-- The options of a database from their written form. -/
def DatabaseOptions.ofJson (j : Json) : DatabaseOptions where
  isSingleResult := (j.field "is_single_result").isTrue
  isAsync := (j.field "is_async").isTrue
  refreshStrategy := optionalTextOf (j.field "refresh_strategy")

/-- The options of memory from their written form. -/
def MemoryOptions.ofJson (j : Json) : MemoryOptions where
  refreshStrategy := optionalTextOf (j.field "refresh_strategy")

/-- The options of a key-value store from their written form. -/
def KeyValueStoreOptions.ofJson (j : Json) : KeyValueStoreOptions where
  delegateType := optionalTextOf (j.field "delegate_type")
  storageFieldName := (j.field "storage_field_name").text
  refreshStrategy := optionalTextOf (j.field "refresh_strategy")

/-- The configurations of the four kinds from their written form. -/
def SourceConfigs.ofJson (j : Json) : SourceConfigs where
  network := .ofJson NetworkOptions.ofJson (j.field "network")
  database := .ofJson DatabaseOptions.ofJson (j.field "database")
  memory := .ofJson MemoryOptions.ofJson (j.field "memory")
  keyValueStore := .ofJson KeyValueStoreOptions.ofJson (j.field "key_value_store")

/-- The role of a parameter from its written form. -/
def ParameterRole.ofJson : Json → ParameterRole
  | .string "query" => .query
  | .string "callback" => .callback
  | .string "error-filter" => .errorFilter
  | .object [(_, content)] =>
    .sourcePayload (.ofJson (content.field "kind")) (content.field "carries_source_params").isTrue
  | _ => .opaqueSourceParams

/-- A parameter with its role from its written form. -/
def ResolvedParameter.ofJson (j : Json) : ResolvedParameter where
  declaredName := (j.field "declared_name").text
  name := (j.field "name").text
  typeName := (j.field "type_name").text
  role := .ofJson (j.field "role")

/-- A way to hand a result back from its written form. -/
def ReturnKind.ofJson (j : Json) : ReturnKind :=
  (ReturnKind.all.find? (·.name = j.text)).getD .syncLookup

/-- A resolved request from its written form. -/
def RequestSpec.ofJson (j : Json) : RequestSpec where
  name := (j.field "name").text
  bindingName := (j.field "binding_name").text
  returnKind := .ofJson (j.field "return_kind")
  dataType := (j.field "data_type").text
  elementType := (j.field "element_type").text
  sources := .ofJson (j.field "sources")
  parameters := (j.field "parameters").items.map ResolvedParameter.ofJson
  reuses := optionalTextOf (j.field "reuses")
  targetsOnly := (j.field "targets_only").isTrue
  boundInConstructor := (j.field "bound_in_constructor").isTrue
  optionalBinding := (j.field "optional_binding").isTrue
  isController := (j.field "controller_reference").isTrue
  cancelPrevious := (j.field "cancel_previous").isTrue
  payloadBuilder := (j.field "payload_builder").option SourceKind.ofJson
  forwarded := (j.field "forwarded_annotations").items.map Json.text

/-- A params provider from its written form. -/
def ProviderSpec.ofJson (j : Json) : ProviderSpec where
  name := (j.field "name").text
  target := (j.field "target").text
  payloadKind := .ofJson (j.field "payload_kind")
  returnType := (j.field "return_type").text
  parameters := (j.field "parameters").items.map ResolvedParameter.ofJson

/-- A resolved interface from its written form. -/
def InterfaceSpec.ofJson (j : Json) : InterfaceSpec where
  name := (j.field "name").text
  requests := (j.field "requests").items.map RequestSpec.ofJson
  providers := (j.field "params_providers").items.map ProviderSpec.ofJson
  hasNetwork := (j.field "has_network").isTrue
  hasKeyValueStore := (j.field "has_key_value_store").isTrue
  hasOptionalBinding := (j.field "has_optional_binding").isTrue

/-- A resolved system from its written form. -/
def ResolvedSystem.ofJson (j : Json) : ResolvedSystem where
  interfaces := .ofJson InterfaceSpec.ofJson (j.field "interfaces")

/-- What the parts of a resolved system's text are. -/
def specSchema : Json.Schema SpecPart :=
  SpecPart.schema true

/-- Reads a resolved system from its text. -/
def ResolvedSystem.parse (text : String) : Except Json.ReadError ResolvedSystem :=
  (Json.read specSchema (.part .system) text).map ResolvedSystem.ofJson

end DataRequests
