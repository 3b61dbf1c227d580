import DataRequests.Request.Spec
import DataRequests.Resolution.Fault

/-!
# Validation

The conditions that hold of every resolved request. Each is a list of faults, empty when the condition holds, and together
they are reported in a fixed order.
-/

namespace DataRequests

/-- The fault that a store has no delegate. -/
def Fault.missingDelegate : Fault :=
  .malformedOptions .keyValueStore "a delegate type is required"

/-- Whether a lookup may read a kind. -/
def SourceKind.isStored : SourceKind → Bool
  | .network => false
  | _ => true

namespace RequestSpec

/-- The two kinds of storage are not both enabled. -/
def storageFaults (r : RequestSpec) : List Fault :=
  if r.sources.hasConflictingStorage then [.conflictingStorage] else []

/-- A controller reference is not restricted to targets. -/
def targetedControllerFaults (r : RequestSpec) : List Fault :=
  if r.targetsOnly && r.isController then [.bindingConflict .targetedController] else []

/-- A method that uses a handle from the constructor declares sources only as targets. -/
def untargetedFaults (r : RequestSpec) : List Fault :=
  match r.reuses with
  | none => []
  | some reference =>
    if r.boundInConstructor && r.sources.declaresAny && !r.targetsOnly then
      [.bindingConflict (.untargetedSources reference)]
    else []

/-- A targeted request declares a source. -/
def targetFaults (r : RequestSpec) : List Fault :=
  if r.targetsOnly && !r.sources.declaresAny then [.targetsWithoutSource] else []

/-- The handle of a reused method enables every kind that the method declares. -/
def unavailableFaults (r : RequestSpec) : List Fault :=
  match r.reuses with
  | none => []
  | some reference =>
    (r.sources.declaredKinds.filter fun kind => !r.sources.isEnabled kind).map (.unavailableSource · reference)

/-- A store that is used locally has a delegate; a handle from the constructor brings its own. -/
def delegateFaults (r : RequestSpec) : List Fault :=
  if r.sources.keyValueStore.enabled && !r.boundInConstructor &&
      r.sources.keyValueStore.options.delegateType.isNone then
    [.missingDelegate]
  else []

/-- A lookup has a kind to read from. -/
def lookupFaults (r : RequestSpec) : List Fault :=
  if r.returnKind = .syncLookup && !SourceKind.all.any (fun kind => kind.isStored && r.sources.isEnabled kind) then
    [.noStorageForLookup]
  else []

/-- Everything that is wrong with a request whose reuse is resolved. -/
def faults (r : RequestSpec) : List Fault :=
  r.storageFaults ++ r.targetedControllerFaults ++ r.untargetedFaults ++ r.targetFaults ++ r.unavailableFaults ++
    r.delegateFaults ++ r.lookupFaults

/-- The request, or everything that is wrong with it. -/
def validate (r : RequestSpec) : Except (List Fault) RequestSpec :=
  if r.faults.isEmpty then .ok r else .error r.faults

end RequestSpec

end DataRequests
