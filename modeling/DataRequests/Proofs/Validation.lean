import DataRequests.Proofs.Sources
import DataRequests.Resolution.Validation

/-!
# What validation accepts

`RequestSpec.Valid` says of a spec what each list of faults in `RequestSpec.faults` checks; validation accepts the valid
specs, and hands them on unchanged (`validate_eq_ok_iff`).
-/

namespace DataRequests

/-- The conditions of validation. -/
structure RequestSpec.Valid (r : RequestSpec) : Prop where
  storage : r.sources.hasConflictingStorage = false
  controller : r.targetsOnly = true → r.isController = false
  targeted : r.reuses.isSome = true → r.boundInConstructor = true → r.sources.declaresAny = true → r.targetsOnly = true
  targets : r.targetsOnly = true → r.sources.declaresAny = true
  available : r.reuses.isSome = true → ∀ kind, r.sources.isDeclared kind = true → r.sources.isEnabled kind = true
  delegate : r.sources.keyValueStore.enabled = true → r.boundInConstructor = false →
    r.sources.keyValueStore.options.delegateType.isSome = true
  lookup : r.returnKind = .syncLookup → ∃ kind, kind.isStored = true ∧ r.sources.isEnabled kind = true

/-- A list with one element under a condition is empty exactly when the condition fails. -/
theorem ite_singleton_eq_nil_iff {α : Type} (c : Bool) (a : α) : (if c then [a] else []) = [] ↔ c = false := by
  cases c <;> simp

/-- An element of a list with one element under a condition is that element. -/
theorem eq_of_mem_ite_singleton {α : Type} {c : Bool} {a b : α} (h : b ∈ if c then [a] else []) : b = a := by
  cases c with
  | false => cases h
  | true => exact List.mem_singleton.mp h

/-- Whether a fault is of the kinds that validation finds. -/
def Fault.isOfValidation : Fault → Bool
  | .conflictingStorage | .bindingConflict _ | .targetsWithoutSource | .unavailableSource .. | .malformedOptions ..
  | .noStorageForLookup => true
  | _ => false

namespace RequestSpec

/-- There is no fault of an untargeted source exactly when a reuse of a handle from the constructor declares its sources as
targets. -/
theorem untargetedFaults_eq_nil_iff (r : RequestSpec) :
    r.untargetedFaults = [] ↔
      (r.reuses.isSome = true → r.boundInConstructor = true → r.sources.declaresAny = true → r.targetsOnly = true) := by
  unfold untargetedFaults
  split
  · rename_i h
    simp [h]
  · rename_i reference h
    rw [ite_singleton_eq_nil_iff, h]
    cases r.boundInConstructor <;> cases r.sources.declaresAny <;> cases r.targetsOnly <;> simp

/-- There is no fault of an unavailable source exactly when a reuse enables what it declares. -/
theorem unavailableFaults_eq_nil_iff (r : RequestSpec) :
    r.unavailableFaults = [] ↔
      (r.reuses.isSome = true → ∀ kind, r.sources.isDeclared kind = true → r.sources.isEnabled kind = true) := by
  unfold unavailableFaults
  split
  · rename_i h
    simp [h]
  · rename_i reference h
    simp [h, List.filter_eq_nil_iff]

/-- Nothing is wrong with a spec exactly when it is valid. -/
theorem faults_eq_nil_iff (r : RequestSpec) : r.faults = [] ↔ r.Valid := by
  unfold faults
  simp only [List.append_eq_nil_iff, untargetedFaults_eq_nil_iff, unavailableFaults_eq_nil_iff]
  simp only [storageFaults, targetedControllerFaults, targetFaults, delegateFaults, lookupFaults,
    ite_singleton_eq_nil_iff]
  constructor
  · rintro ⟨⟨⟨⟨⟨⟨hstorage, hcontroller⟩, htargeted⟩, htargets⟩, havailable⟩, hdelegate⟩, hlookup⟩
    refine ⟨hstorage, fun h => ?_, htargeted, fun h => ?_, havailable, fun he hb => ?_, fun hk => ?_⟩
    · simpa [h] using hcontroller
    · simpa [h] using htargets
    · simpa [he, hb, Option.isSome_iff_ne_none] using hdelegate
    · simpa [hk] using hlookup
  · intro h
    refine ⟨⟨⟨⟨⟨⟨h.storage, ?_⟩, h.targeted⟩, ?_⟩, h.available⟩, ?_⟩, ?_⟩
    · cases ht : r.targetsOnly <;> simp [h.controller, ht]
    · cases ht : r.targetsOnly <;> simp [h.targets, ht]
    · cases he : r.sources.keyValueStore.enabled
      · simp
      · cases hb : r.boundInConstructor
        · simpa [Option.isSome_iff_ne_none] using h.delegate he hb
        · simp
    · by_cases hk : r.returnKind = .syncLookup
      · simpa [hk] using h.lookup hk
      · simp [hk]

/-- Validation finds faults of its own kinds only. -/
theorem isOfValidation_of_mem_faults {r : RequestSpec} {fault : Fault} (h : fault ∈ r.faults) :
    fault.isOfValidation = true := by
  simp only [faults, List.mem_append] at h
  rcases h with (((((hstorage | hcontroller) | huntargeted) | htargets) | hunavailable) | hdelegate) | hlookup
  · rw [eq_of_mem_ite_singleton hstorage]
    rfl
  · rw [eq_of_mem_ite_singleton hcontroller]
    rfl
  · unfold untargetedFaults at huntargeted
    split at huntargeted
    · cases huntargeted
    · rw [eq_of_mem_ite_singleton huntargeted]
      rfl
  · rw [eq_of_mem_ite_singleton htargets]
    rfl
  · unfold unavailableFaults at hunavailable
    split at hunavailable
    · cases hunavailable
    · obtain ⟨kind, -, rfl⟩ := List.mem_map.mp hunavailable
      rfl
  · rw [eq_of_mem_ite_singleton hdelegate]
    rfl
  · rw [eq_of_mem_ite_singleton hlookup]
    rfl

/-- Validation accepts the valid specs and nothing else, and changes nothing. -/
theorem validate_eq_ok_iff (r r' : RequestSpec) : r.validate = .ok r' ↔ r = r' ∧ r'.Valid := by
  unfold validate
  rw [← faults_eq_nil_iff]
  split
  · rename_i h
    rw [Except.ok.injEq, iff_self_and]
    rintro rfl
    exact List.isEmpty_iff.mp h
  · rename_i h
    refine iff_of_false nofun ?_
    rintro ⟨rfl, hnil⟩
    exact h (List.isEmpty_iff.mpr hnil)

end RequestSpec

end DataRequests
