import DataRequests.Declaration.Document
import DataRequests.Json.Shape

/-!
# The schema of documents

What may be read as a declaration document is wider than what is written: fields with a default may be left out, members may
come in any order, and the fields of a record may be given by position. Members with other keys are errors in a record, and
are passed over in the content of a marker, a tag or a capability.
-/

namespace DataRequests

/-- The parts of a document. -/
inductive DeclarationPart where
  | document | interface | method | parameter | type | defaults | networkDefaults
  | tag | rename | payload
  | capability | sourceParams
  | sourceKind
  | marker | network | transport | database | memory | keyValueStore | reuse | controller | paramsProvider | forward
  deriving DecidableEq, Repr

namespace DeclarationPart

/-- A field whose text may be absent. -/
def optionalField (name : String) : Json.Field DeclarationPart :=
  ⟨name, .optional .string, .default .null⟩

/-- A flag that is false when it is left out. -/
def flagField (name : String) : Json.Field DeclarationPart :=
  ⟨name, .boolean, .default (.boolean false)⟩

/-- A list that is empty when it is left out. -/
def listField (name : String) (item : DeclarationPart) : Json.Field DeclarationPart :=
  ⟨name, .list "a sequence" (.part item), .default (.array [])⟩

/-- A part that may be absent. -/
def optionalPart (name : String) (content : DeclarationPart) : Json.Field DeclarationPart :=
  ⟨name, .optional (.part content), .default .null⟩

/-- A text that must be there. -/
def textField (name : String) : Json.Field DeclarationPart :=
  ⟨name, .string, .missing⟩

/-- The variants of the kinds of source. -/
def kindVariants : List (Json.Variant DeclarationPart) :=
  SourceKind.all.map fun kind => ⟨kind.name, .none⟩

/-- A record all of whose keys are known. -/
def strict (title : String) (fields : List (Json.Field DeclarationPart)) : Json.Part DeclarationPart :=
  .record { title := "struct " ++ title, fields := fields, strict := true }

/-- The fields that go with a variant. -/
def fieldsOf (byPosition : Bool) (title : String) (fields : List (Json.Field DeclarationPart)) :
    Json.Part DeclarationPart :=
  .record { title := "struct variant " ++ title, fields := fields, strict := false, positional := byPosition }

/-- What each part of a document is. `byPosition` tells whether the fields that go with a variant may be given by position,
as they may in a document's text. -/
def schema (byPosition : Bool) : Json.Schema DeclarationPart
  | .document =>
    strict "AstSystem" [optionalPart "config" .defaults, ⟨"interfaces", .list "a sequence" (.part .interface), .missing⟩]
  | .interface =>
    strict "AstInterface"
      [textField "name", optionalPart "config" .defaults, optionalPart "network" .networkDefaults,
       listField "methods" .method]
  | .method =>
    strict "AstMethod"
      [textField "name", ⟨"return-type", .part .type, .missing⟩, listField "parameters" .parameter,
       listField "annotations" .marker]
  | .parameter =>
    strict "AstParameter" [textField "name", ⟨"type", .part .type, .missing⟩, listField "tags" .tag]
  | .type => strict "AstType" [textField "name", listField "args" .type, listField "capabilities" .capability]
  | .defaults =>
    strict "GlobalConfig"
      [optionalField "response-transform", optionalField "error-transform", optionalField "refresh-strategy"]
  | .networkDefaults =>
    strict "InterfaceNetworkDefaults" [optionalField "response-transform", optionalField "error-transform"]
  | .tag => .choice [⟨"rename", .fields .rename⟩, ⟨"payload", .fields .payload⟩]
  | .rename => fieldsOf byPosition "AstParameterTag::Rename" [textField "name"]
  | .payload => fieldsOf byPosition "AstParameterTag::Payload" [⟨"source", .part .sourceKind, .missing⟩]
  | .capability =>
    .choice
      [⟨"request", .none⟩, ⟨"call", .none⟩, ⟨"controller", .none⟩, ⟨"source-params", .fields .sourceParams⟩,
       ⟨"callback", .none⟩, ⟨"error-filter", .none⟩, ⟨"list", .none⟩]
  | .sourceParams => fieldsOf byPosition "TypeCapability::SourceParams" [optionalPart "payload" .sourceKind]
  | .sourceKind => .choice kindVariants
  | .marker =>
    .choice
      [⟨"network", .value (.part .network)⟩, ⟨"transport", .fields .transport⟩, ⟨"database", .value (.part .database)⟩,
       ⟨"memory", .value (.part .memory)⟩, ⟨"key-value-store", .value (.part .keyValueStore)⟩,
       ⟨"reuse", .fields .reuse⟩, ⟨"targets", .none⟩, ⟨"controller-reference", .fields .controller⟩,
       ⟨"params-provider", .fields .paramsProvider⟩, ⟨"cancel-previous", .none⟩, ⟨"forward", .fields .forward⟩]
  | .network =>
    strict "NetworkAnnotation"
      [optionalField "response-transform", optionalField "error-transform", optionalField "refresh-strategy",
       optionalField "call-return-type"]
  | .transport => fieldsOf byPosition "AstAnnotation::Transport" [textField "verb", textField "path"]
  | .database => strict "DatabaseAnnotation" [optionalField "refresh-strategy", flagField "is-async"]
  | .memory => strict "MemoryAnnotation" [optionalField "refresh-strategy"]
  | .keyValueStore => strict "KeyValueStoreAnnotation" [optionalField "delegate", optionalField "refresh-strategy"]
  | .reuse => fieldsOf byPosition "AstAnnotation::Reuse" [textField "method"]
  | .controller =>
    fieldsOf byPosition "AstAnnotation::ControllerReference" [flagField "in-constructor", flagField "optional"]
  | .paramsProvider => fieldsOf byPosition "AstAnnotation::ParamsProvider" [textField "target"]
  | .forward => fieldsOf byPosition "AstAnnotation::Forward" [textField "name"]

end DeclarationPart

/-- What the parts of a document's text are. -/
def declarationSchema : Json.Schema DeclarationPart :=
  DeclarationPart.schema true

end DataRequests
