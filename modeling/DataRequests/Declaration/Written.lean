import DataRequests.Declaration.Document
import DataRequests.Json.Value

/-!
# The written form of documents

A declaration document is written with every field of every part, in a fixed order. A marker or a capability without
content is its name, one with content an object whose only key is the name.
-/

namespace DataRequests

/-- A kind of source as JSON: its name. -/
def SourceKind.toJson (k : SourceKind) : Json :=
  .string k.name

/-- A text that may be absent. -/
def optionalText : Option String → Json :=
  Json.ofOption .string

namespace Defaults

/-- Defaults as JSON. -/
def toJson (d : Defaults) : Json :=
  .object
    [("response-transform", optionalText d.responseTransform),
     ("error-transform", optionalText d.errorTransform),
     ("refresh-strategy", optionalText d.refreshStrategy)]

end Defaults

/-- The network block of an interface as JSON. -/
def NetworkDefaults.toJson (n : NetworkDefaults) : Json :=
  .object
    [("response-transform", optionalText n.responseTransform),
     ("error-transform", optionalText n.errorTransform)]

/-- A capability as JSON: its name, or an object when it has content. -/
def Capability.toJson : Capability → Json
  | .request => .string "request"
  | .call => .string "call"
  | .controller => .string "controller"
  | .sourceParams payload =>
    .object [("source-params", .object [("payload", Json.ofOption SourceKind.toJson payload)])]
  | .callback => .string "callback"
  | .errorFilter => .string "error-filter"
  | .list => .string "list"

mutual

/-- A type as JSON. -/
def TypeExpr.toJson : TypeExpr → Json
  | ⟨name, args, capabilities⟩ =>
    .object
      [("name", .string name),
       ("args", .array (TypeExpr.toJsonItems args)),
       ("capabilities", Json.ofList Capability.toJson capabilities)]

/-- Types as JSON, one by one. -/
def TypeExpr.toJsonItems : List TypeExpr → List Json
  | [] => []
  | t :: rest => t.toJson :: TypeExpr.toJsonItems rest

end

/-- The content of a network marker as JSON. -/
def NetworkMarker.toJson (m : NetworkMarker) : Json :=
  .object
    [("response-transform", optionalText m.responseTransform),
     ("error-transform", optionalText m.errorTransform),
     ("refresh-strategy", optionalText m.refreshStrategy),
     ("call-return-type", optionalText m.callReturnType)]

/-- The content of a database marker as JSON. -/
def DatabaseMarker.toJson (m : DatabaseMarker) : Json :=
  .object [("refresh-strategy", optionalText m.refreshStrategy), ("is-async", .boolean m.isAsync)]

/-- The content of a memory marker as JSON. -/
def MemoryMarker.toJson (m : MemoryMarker) : Json :=
  .object [("refresh-strategy", optionalText m.refreshStrategy)]

/-- The content of a marker for the key-value store as JSON. -/
def KeyValueStoreMarker.toJson (m : KeyValueStoreMarker) : Json :=
  .object [("delegate", optionalText m.delegate), ("refresh-strategy", optionalText m.refreshStrategy)]

/-- A transport binding as JSON. -/
def Transport.toJson (t : Transport) : Json :=
  .object [("verb", .string t.verb), ("path", .string t.path)]

/-- The content of a controller marker as JSON. -/
def ControllerMarker.toJson (c : ControllerMarker) : Json :=
  .object [("in-constructor", .boolean c.inConstructor), ("optional", .boolean c.optional)]

/-- A marker as JSON: its name, or an object when it has content. -/
def Marker.toJson : Marker → Json
  | .network content => .object [("network", content.toJson)]
  | .transport binding => .object [("transport", binding.toJson)]
  | .database content => .object [("database", content.toJson)]
  | .memory content => .object [("memory", content.toJson)]
  | .keyValueStore content => .object [("key-value-store", content.toJson)]
  | .reuse method => .object [("reuse", .object [("method", .string method)])]
  | .targets => .string "targets"
  | .controllerReference marker => .object [("controller-reference", marker.toJson)]
  | .paramsProvider target => .object [("params-provider", .object [("target", .string target)])]
  | .cancelPrevious => .string "cancel-previous"
  | .forward name => .object [("forward", .object [("name", .string name)])]

/-- A tag as JSON. -/
def ParameterTag.toJson : ParameterTag → Json
  | .rename name => .object [("rename", .object [("name", .string name)])]
  | .payload source => .object [("payload", .object [("source", source.toJson)])]

/-- A parameter as JSON. -/
def Parameter.toJson (p : Parameter) : Json :=
  .object [("name", .string p.name), ("type", p.type.toJson), ("tags", Json.ofList ParameterTag.toJson p.tags)]

/-- A method as JSON. -/
def Method.toJson (m : Method) : Json :=
  .object
    [("name", .string m.name),
     ("return-type", m.returnType.toJson),
     ("parameters", Json.ofList Parameter.toJson m.parameters),
     ("annotations", Json.ofList Marker.toJson m.markers)]

/-- An interface as JSON. -/
def Interface.toJson (i : Interface) : Json :=
  .object
    [("name", .string i.name),
     ("config", Json.ofOption Defaults.toJson i.config),
     ("network", Json.ofOption NetworkDefaults.toJson i.network),
     ("methods", Json.ofList Method.toJson i.methods)]

/-- A document as JSON. -/
def Document.toJson (d : Document) : Json :=
  .object
    [("config", Json.ofOption Defaults.toJson d.config),
     ("interfaces", Json.ofList Interface.toJson d.interfaces)]

end DataRequests
