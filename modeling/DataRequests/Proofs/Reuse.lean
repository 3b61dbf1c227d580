import DataRequests.Proofs.Sources
import DataRequests.Resolution.Reuse

/-!
# What a reuse takes from its reference

Statements about `RequestSpec.merge` and `RequestSpec.resolveReuse`. A merge has two branches, for a handle that comes through
the constructor and for one that is built, and may enable default kinds afterwards; they are joined here into one equation for
the fields outside the sources (`merge_eq`) and one for the enabled kinds (`isEnabled_mergedSources`).
-/

namespace DataRequests

namespace RequestSpec

/-- The sources of a method merged with those of the method it reuses. -/
def mergedSources (own reference : RequestSpec) : SourceConfigs :=
  (own.merge reference).sources

/-- Enabling the default kinds changes the sources alone. -/
theorem enableDefaults_eq (r : RequestSpec) : r.enableDefaults = { r with sources := r.enableDefaults.sources } := by
  unfold enableDefaults
  split <;> rfl

/-- A merge takes the name of the handle from the reference, and comes through the constructor if one of the two does. Beside
that and the sources only the data type may change. -/
theorem merge_eq (own reference : RequestSpec) :
    own.merge reference =
      { own with
        bindingName := reference.bindingName
        dataType := if reference.boundInConstructor then own.dataType else reference.dataType
        boundInConstructor := own.boundInConstructor || reference.boundInConstructor
        sources := own.mergedSources reference } := by
  unfold mergedSources merge
  rw [enableDefaults_eq]
  split
  · rename_i h
    simp [forwardTo, h]
  · rename_i h
    simp [overlayOn, h]

/-- A merge declares what the method itself declares. -/
@[simp]
theorem isDeclared_mergedSources (own reference : RequestSpec) :
    (own.mergedSources reference).isDeclared = own.sources.isDeclared := by
  have henable : ∀ r : RequestSpec, r.enableDefaults.sources.isDeclared = r.sources.isDeclared := by
    intro r
    unfold enableDefaults
    split <;> simp
  unfold mergedSources merge
  rw [henable]
  funext kind
  split <;> cases kind <;> rfl

/-- The kinds that are enabled by default for a merge with a handle that is built. -/
def mergeDefault (own : RequestSpec) (kind : SourceKind) : Bool :=
  kind.isDefault && !(own.sources.declaresAny || own.isController || own.boundInConstructor)

/-- A merge enables what the reference enables. A handle from the constructor is taken to have what the method declares as
well; a method that uses any other handle has the default kinds as well if it declares none. -/
theorem isEnabled_mergedSources (own reference : RequestSpec) (kind : SourceKind) :
    (own.mergedSources reference).isEnabled kind =
      (reference.sources.isEnabled kind ||
        if reference.boundInConstructor then own.sources.isDeclared kind else own.mergeDefault kind) := by
  unfold mergedSources merge
  split
  · have hdefaults : (own.forwardTo reference).enableDefaults = own.forwardTo reference := by
      simp [enableDefaults, forwardTo]
    rw [hdefaults]
    cases kind <;> rfl
  · have hoverlay : (own.overlayOn reference).sources.isEnabled kind = reference.sources.isEnabled kind := by
      cases kind <;> rfl
    have hdeclares : (own.overlayOn reference).sources.declaresAny = own.sources.declaresAny :=
      SourceConfigs.declaresAny_congr (by funext kind; cases kind <;> rfl)
    have hfields : (own.overlayOn reference).isController = own.isController ∧
        (own.overlayOn reference).boundInConstructor = own.boundInConstructor := ⟨rfl, rfl⟩
    unfold enableDefaults mergeDefault
    rw [hdeclares, hfields.1, hfields.2]
    split
    · rename_i h
      simp [h, hoverlay]
    · rename_i h
      rw [Bool.not_eq_true] at h
      rw [h, SourceConfigs.isEnabled_withEnabled, hoverlay, Bool.or_comm]
      simp

/-- Resolving the reuse succeeds exactly when there is none, or when the lookup finds a handle of the same data type, with which
the method is merged. -/
theorem resolveReuse_eq_ok_iff (own : RequestSpec) (pool : Pool) (r : RequestSpec) :
    own.resolveReuse pool = .ok r ↔
      own.reuses = none ∧ r = own ∨
        ∃ target reference, own.reuses = some target ∧ pool.lookup own.name target = .ok reference ∧
          reference.dataType = own.dataType ∧ r = own.merge reference := by
  unfold resolveReuse
  split
  · rename_i h
    simp [h, eq_comm]
  · rename_i target h
    split
    · rename_i fault hlookup
      simp [h, hlookup]
    · rename_i reference hlookup
      split
      · rename_i htype
        simp [h, hlookup, htype, eq_comm]
      · rename_i htype
        simp [h, hlookup, htype]

/-- Resolving the reuse changes the name of the handle, whether it comes through the constructor, and the sources, and nothing
else. What is declared stays, and a handle comes through the constructor only by the method's own marker or by a reuse. -/
theorem resolveReuse_keeps {own r : RequestSpec} {pool : Pool} (h : own.resolveReuse pool = .ok r) :
    r = { own with bindingName := r.bindingName, boundInConstructor := r.boundInConstructor, sources := r.sources } ∧
      r.sources.isDeclared = own.sources.isDeclared ∧
      (own.boundInConstructor = true → r.boundInConstructor = true) ∧
      (r.boundInConstructor = true → own.boundInConstructor = true ∨ own.reuses.isSome = true) := by
  rcases (own.resolveReuse_eq_ok_iff pool r).mp h with ⟨-, rfl⟩ | ⟨target, reference, hreuses, -, htype, rfl⟩
  · exact ⟨rfl, rfl, id, Or.inl⟩
  · rw [merge_eq]
    refine ⟨?_, isDeclared_mergedSources own reference, fun hbound => by simp [hbound], fun _ => Or.inr (by simp [hreuses])⟩
    simp [htype]

end RequestSpec

end DataRequests
