import DataRequests.Declaration.Schema
import DataRequests.Json.Reader

/-!
# Reading documents

Reading by the schema hands on the written form of a document, whatever form the text had, and the functions here take it
apart. They are total: what they do with values of another form does not matter, since the schema lets none through.
-/

namespace DataRequests

/-- The kind of source that a written form names; the network if it names none. -/
def SourceKind.ofJson (j : Json) : SourceKind :=
  (SourceKind.ofName? j.text).getD .network

/-- A text that may be absent. -/
def optionalTextOf (j : Json) : Option String :=
  j.option Json.text

/-- The defaults of a written form. -/
def Defaults.ofJson (j : Json) : Defaults where
  responseTransform := optionalTextOf (j.field "response-transform")
  errorTransform := optionalTextOf (j.field "error-transform")
  refreshStrategy := optionalTextOf (j.field "refresh-strategy")

/-- The network block of a written form. -/
def NetworkDefaults.ofJson (j : Json) : NetworkDefaults where
  responseTransform := optionalTextOf (j.field "response-transform")
  errorTransform := optionalTextOf (j.field "error-transform")

/-- The capability of a written form. -/
def Capability.ofJson : Json → Capability
  | .string "request" => .request
  | .string "call" => .call
  | .string "controller" => .controller
  | .string "callback" => .callback
  | .string "error-filter" => .errorFilter
  | .string _ => .list
  | j => .sourceParams (((j.field "source-params").field "payload").option SourceKind.ofJson)

mutual

/-- The type of a written form. -/
def TypeExpr.ofJson : Json → TypeExpr
  | .object [(_, name), (_, .array args), (_, capabilities)] =>
    ⟨name.text, TypeExpr.ofJsonItems args, capabilities.items.map Capability.ofJson⟩
  | _ => { name := "" }

/-- The types of written forms, one by one. -/
def TypeExpr.ofJsonItems : List Json → List TypeExpr
  | [] => []
  | j :: rest => TypeExpr.ofJson j :: TypeExpr.ofJsonItems rest

end

/-- The content of a network marker from its written form. -/
def NetworkMarker.ofJson (j : Json) : NetworkMarker where
  responseTransform := optionalTextOf (j.field "response-transform")
  errorTransform := optionalTextOf (j.field "error-transform")
  refreshStrategy := optionalTextOf (j.field "refresh-strategy")
  callReturnType := optionalTextOf (j.field "call-return-type")

/-- The content of a database marker from its written form. -/
def DatabaseMarker.ofJson (j : Json) : DatabaseMarker where
  refreshStrategy := optionalTextOf (j.field "refresh-strategy")
  isAsync := (j.field "is-async").isTrue

/-- The content of a memory marker from its written form. -/
def MemoryMarker.ofJson (j : Json) : MemoryMarker where
  refreshStrategy := optionalTextOf (j.field "refresh-strategy")

/-- The content of a marker for the key-value store from its written form. -/
def KeyValueStoreMarker.ofJson (j : Json) : KeyValueStoreMarker where
  delegate := optionalTextOf (j.field "delegate")
  refreshStrategy := optionalTextOf (j.field "refresh-strategy")

/-- The transport binding of a written form. -/
def Transport.ofJson (j : Json) : Transport where
  verb := (j.field "verb").text
  path := (j.field "path").text

/-- The content of a controller marker from its written form. -/
def ControllerMarker.ofJson (j : Json) : ControllerMarker where
  inConstructor := (j.field "in-constructor").isTrue
  optional := (j.field "optional").isTrue

/-- The marker of a written form. -/
def Marker.ofJson : Json → Marker
  | .object [("network", content)] => .network (.ofJson content)
  | .object [("transport", content)] => .transport (.ofJson content)
  | .object [("database", content)] => .database (.ofJson content)
  | .object [("memory", content)] => .memory (.ofJson content)
  | .object [("key-value-store", content)] => .keyValueStore (.ofJson content)
  | .object [("reuse", content)] => .reuse (content.field "method").text
  | .object [("controller-reference", content)] => .controllerReference (.ofJson content)
  | .object [("params-provider", content)] => .paramsProvider (content.field "target").text
  | .object [(_, content)] => .forward (content.field "name").text
  | .string "targets" => .targets
  | _ => .cancelPrevious

/-- The tag of a written form. -/
def ParameterTag.ofJson : Json → ParameterTag
  | .object [("payload", content)] => .payload (.ofJson (content.field "source"))
  | j => .rename ((j.field "rename").field "name").text

/-- The parameter of a written form. -/
def Parameter.ofJson (j : Json) : Parameter where
  name := (j.field "name").text
  type := .ofJson (j.field "type")
  tags := (j.field "tags").items.map ParameterTag.ofJson

/-- The method of a written form. -/
def Method.ofJson (j : Json) : Method where
  name := (j.field "name").text
  returnType := .ofJson (j.field "return-type")
  parameters := (j.field "parameters").items.map Parameter.ofJson
  markers := (j.field "annotations").items.map Marker.ofJson

/-- The interface of a written form. -/
def Interface.ofJson (j : Json) : Interface where
  name := (j.field "name").text
  config := (j.field "config").option Defaults.ofJson
  network := (j.field "network").option NetworkDefaults.ofJson
  methods := (j.field "methods").items.map Method.ofJson

/-- The document of a written form. -/
def Document.ofJson (j : Json) : Document where
  config := (j.field "config").option Defaults.ofJson
  interfaces := (j.field "interfaces").items.map Interface.ofJson

/-- Reads a document from its text. -/
def Document.parse (text : String) : Except Json.ReadError Document :=
  (Json.read declarationSchema (.part .document) text).map Document.ofJson

end DataRequests
