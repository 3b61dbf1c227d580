import DataRequests.Source

/-!
# Declared types

A declared type is a name with type arguments. What a reader of declarations knows about the structure of a type comes with
it as capabilities, so that no question is ever asked of the type itself.
-/

namespace DataRequests

/-- A structural fact about a type. -/
inductive Capability where
  /-- An asynchronous request over the enabled sources. -/
  | request
  /-- A raw transport call. -/
  | call
  /-- The shared data-access handle. -/
  | controller
  /-- An object with source parameters, and the kind whose parameters it carries. -/
  | sourceParams (payload : Option SourceKind)
  | callback
  | errorFilter
  | list
  deriving DecidableEq, Repr

/-- Whether a type with this capability wraps the data of a request. -/
def Capability.isWrapper : Capability → Bool
  | .request | .call | .controller | .sourceParams _ => true
  | _ => false

/-- Whether the capability is that of source parameters. -/
def Capability.isSourceParams : Capability → Bool
  | .sourceParams _ => true
  | _ => false

/-- A declared type. -/
structure TypeExpr where
  name : String
  args : List TypeExpr := []
  capabilities : List Capability := []
  deriving Repr

namespace TypeExpr

mutual

/-- Whether two types are the same. -/
def decEq : (t u : TypeExpr) → Decidable (t = u)
  | ⟨name, args, capabilities⟩, ⟨name', args', capabilities'⟩ =>
    match decEqArgs args args' with
    | .isTrue h =>
      if h' : name = name' ∧ capabilities = capabilities' then .isTrue (by rw [h, h'.1, h'.2])
      else .isFalse fun e => h' ⟨congrArg TypeExpr.name e, congrArg TypeExpr.capabilities e⟩
    | .isFalse h => .isFalse fun e => h (congrArg TypeExpr.args e)

/-- Whether two lists of types are the same. -/
def decEqArgs : (ts us : List TypeExpr) → Decidable (ts = us)
  | [], [] => .isTrue rfl
  | [], _ :: _ => .isFalse nofun
  | _ :: _, [] => .isFalse nofun
  | t :: ts, u :: us =>
    match decEq t u, decEqArgs ts us with
    | .isTrue h, .isTrue h' => .isTrue (by rw [h, h'])
    | .isFalse h, _ => .isFalse fun e => h (List.cons.inj e).1
    | _, .isFalse h => .isFalse fun e => h (List.cons.inj e).2

end

instance : DecidableEq TypeExpr := decEq

instance : Inhabited TypeExpr := ⟨{ name := "" }⟩

/-- Whether a type has a capability. -/
def has (t : TypeExpr) (c : Capability) : Bool :=
  t.capabilities.contains c

/-- The capability that makes a type the wrapper of a result, if it has one: the first of these. -/
def wrapper (t : TypeExpr) : Option Capability :=
  t.capabilities.find? (·.isWrapper)

/-- Whether a type is an object with source parameters. -/
def isSourceParams (t : TypeExpr) : Bool :=
  t.capabilities.any (·.isSourceParams)

/-- Whether a type is a list. -/
def isList (t : TypeExpr) : Bool :=
  t.has .list

mutual

/-- A type as text, in characters: its name, and its arguments in angle brackets. -/
def chars : TypeExpr → List Char
  | ⟨name, [], _⟩ => name.toList
  | ⟨name, arg :: args, _⟩ => name.toList ++ '<' :: (chars arg ++ argChars args)

/-- The arguments after the first, and the closing bracket. -/
def argChars : List TypeExpr → List Char
  | [] => ['>']
  | arg :: args => ',' :: ' ' :: (chars arg ++ argChars args)

end

/-- A type as text. -/
def render (t : TypeExpr) : String :=
  String.ofList t.chars

end TypeExpr

end DataRequests
