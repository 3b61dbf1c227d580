import DataRequests.Request.Spec
import DataRequests.Resolution.Fault

/-!
# Reuse

A method may use the data-access handle of another one. Only a method that reuses no other can be referred to, and only when
it has been validated is its handle really built; the `Pool` of an interface holds these handles, and what is needed to tell
why a name leads to none.

Where the handle comes through the constructor, its set of enabled kinds is taken and everything else stays the method's
own. Otherwise the configuration of the handle replaces the method's own, the options of the kinds excepted that the method
declares itself.
-/

namespace DataRequests

/-- The methods of an interface that a reuse may refer to. -/
structure Pool where
  /-- The specs whose handles are built. -/
  handles : List RequestSpec := []
  /-- The names of the methods that reuse no other and have failed. -/
  failed : List String := []
  /-- The methods that reuse another, and which. -/
  chained : List (String × String) := []
  deriving DecidableEq, Repr

namespace Pool

/-- The handles that a method may mean by a name: none is its own. -/
def candidates (p : Pool) (method target : String) : List RequestSpec :=
  p.handles.filter fun handle => handle.bindingName = target && handle.name != method

/-- How many failed methods a method may mean by a name. -/
def failures (p : Pool) (method target : String) : Nat :=
  p.failed.countP fun name => name = target && name != method

/-- What the first method of a name that reuses another one reuses. -/
def chainedTarget? (p : Pool) (target : String) : Option String :=
  (p.chained.find? (·.1 = target)).map (·.2)

/-- The handle that a method means by a name, or the fault that there is not exactly one. -/
def lookup (p : Pool) (method target : String) : Except Fault RequestSpec :=
  match p.candidates method target, p.failures method target with
  | [handle], 0 => .ok handle
  | [], 0 => .error (.danglingReuse target (p.chainedTarget? target))
  | [], 1 => .error (.unresolvedReuse target)
  | handles, failures => .error (.ambiguousReuse target (handles.length + failures))

end Pool

/-- The kinds that are enabled for a method that declares none. A key-value store needs a delegate, so it is not one. -/
def SourceKind.isDefault : SourceKind → Bool
  | .keyValueStore => false
  | _ => true

namespace RequestSpec

/-- The spec of a method that uses a handle from the constructor. -/
def forwardTo (own reference : RequestSpec) : RequestSpec :=
  let sources := own.sources.withEnabled fun kind => reference.sources.isEnabled kind || own.sources.isDeclared kind
  { own with
    bindingName := reference.bindingName
    boundInConstructor := true
    sources := { sources with
      database := { sources.database with
        options := { sources.database.options with
          isSingleResult := reference.sources.database.options.isSingleResult } } } }

/-- The options of a kind: the method's own if it declares the kind, or else those of the reference. -/
def pickOptions {Options : Type} (own reference : SourceConfig Options) : SourceConfig Options :=
  ⟨reference.enabled, own.declared, if own.declared then own.options else reference.options⟩

/-- The options of a declared store, with the delegate of the reference and the field that keeps it if it has none. -/
def delegateFrom (own reference : KeyValueStoreOptions) : KeyValueStoreOptions :=
  match own.delegateType with
  | some _ => own
  | none => { own with delegateType := reference.delegateType, storageFieldName := reference.storageFieldName }

/-- The spec of a method that uses the handle of a reference with the reference's configuration. -/
def overlayOn (own reference : RequestSpec) : RequestSpec :=
  let mine := own.sources
  let theirs := reference.sources
  { own with
    bindingName := reference.bindingName
    dataType := reference.dataType
    sources :=
      { network := pickOptions mine.network theirs.network
        database := pickOptions mine.database theirs.database
        memory := pickOptions mine.memory theirs.memory
        keyValueStore :=
          pickOptions
            { mine.keyValueStore with
              options := delegateFrom mine.keyValueStore.options theirs.keyValueStore.options }
            theirs.keyValueStore } }

/-- The spec with the default kinds enabled, if the method declares none, is no controller reference and has its handle from
within. -/
def enableDefaults (r : RequestSpec) : RequestSpec :=
  if r.sources.declaresAny || r.isController || r.boundInConstructor then r
  else { r with sources := r.sources.withEnabled fun kind => kind.isDefault || r.sources.isEnabled kind }

/-- The spec of a method merged with that of the method it reuses. -/
def merge (own reference : RequestSpec) : RequestSpec :=
  (if reference.boundInConstructor then own.forwardTo reference else own.overlayOn reference).enableDefaults

/-- The spec of a method with its reuse resolved. The two methods must have the same data type. -/
def resolveReuse (own : RequestSpec) (pool : Pool) : Except Fault RequestSpec :=
  match own.reuses with
  | none => .ok own
  | some target =>
    match pool.lookup own.name target with
    | .error fault => .error fault
    | .ok reference =>
      if reference.dataType = own.dataType then .ok (own.merge reference)
      else .error (.reuseTypeMismatch target reference.dataType own.dataType)

end RequestSpec

end DataRequests
