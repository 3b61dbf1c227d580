import DataRequests.Proofs.ReuseFaults

/-!
# What the stages of resolution find

The faults of a method are found at four stages, and their errors are reported in this order. A stage that refuses a method explains
why: it finds at least one fault, and faults of its own kinds only (`Stage.Explains`). So no method is refused without an error.
-/

namespace DataRequests

/-! ## Stages -/

/-- The stages at which the faults of a method are found. -/
inductive Stage where
  | repetition
  | declaration
  /-- A request beside the other requests: its reuse, and its validation. -/
  | combination
  | provision
  deriving DecidableEq, Repr

namespace Stage

/-- The stages, in the order in which their errors are reported. -/
def all : List Stage :=
  [.repetition, .declaration, .combination, .provision]

/-- Whether a fault is of the kinds that a stage finds. -/
def finds (stage : Stage) (fault : Fault) : Bool :=
  match stage, fault with
  | .repetition, .duplicateMethod => true
  | .declaration, .repeatedMarker _ | .declaration, .duplicateSpecialParameter .. | .declaration, .parametersOnController _
  | .declaration, .invalidReturnType .. | .declaration, .missingSourceIntent _ => true
  | .combination, fault => fault.isAboutReuse || fault.isOfValidation
  | .provision, .invalidReturnType .. | .provision, .duplicateSpecialParameter .. | .provision, .unknownProviderTarget _
  | .provision, .providerShapeMismatch .. => true
  | _, _ => false

/-- Only the first stage finds repetitions. -/
theorem eq_repetition_of_finds {stage : Stage} (h : stage.finds .duplicateMethod = true) : stage = .repetition := by
  cases stage <;> first | rfl | cases h

/-- A stage explains its result: where it refuses a method it names a fault, and faults of its own kinds only. -/
def Explains {α : Type} (stage : Stage) (result : Except (List Fault) α) : Prop :=
  ∀ faults, result = .error faults → faults ≠ [] ∧ ∀ fault ∈ faults, stage.finds fault = true

/-- A single fault of the stage explains a refusal. -/
theorem explains_singleton {α : Type} {stage : Stage} {fault : Fault} (h : stage.finds fault = true) :
    stage.Explains (.error [fault] : Except (List Fault) α) := by
  intro faults hfaults
  cases hfaults
  exact ⟨List.cons_ne_nil _ _, fun f hf => List.mem_singleton.mp hf ▸ h⟩

end Stage

/-! ## The declaration of a request -/

/-- The faults of special parameters are found in a declaration as in a params provider. -/
theorem finds_of_mem_specialParameterFaults {parameters : List ResolvedParameter} {fault : Fault}
    (h : fault ∈ specialParameterFaults parameters) :
    Stage.declaration.finds fault = true ∧ Stage.provision.finds fault = true := by
  obtain ⟨role, -, hrole⟩ := List.mem_filterMap.mp h
  unfold SpecialRole.fault? at hrole
  split at hrole
  · cases hrole
    exact ⟨rfl, rfl⟩
  · cases hrole

/-- A return type without a shape is a fault of the declaration. -/
theorem ReturnShape.finds_of_ofType {t : TypeExpr} {isController : Bool} {fault : Fault}
    (h : ofType t isController = .error fault) : Stage.declaration.finds fault = true := by
  unfold ofType at h
  split at h
  · cases h
    rfl
  · split at h
    · cases h
      rfl
    · cases h

/-- Markers that are not sorted are repeated. -/
theorem Markers.collect_explained (markers : List Marker) : Stage.declaration.Explains (collect markers) := by
  intro faults hfaults
  unfold collect at hfaults
  split at hfaults
  · cases hfaults
  · rename_i hne
    cases hfaults
    refine ⟨fun hnil => hne (List.map_eq_nil_iff.mp hnil), fun fault hfault => ?_⟩
    obtain ⟨a, -, rfl⟩ := List.mem_map.mp hfault
    rfl

namespace Method

/-- A scan that fails names the faults of the declaration. -/
theorem scan_explained (m : Method) (d : Defaults) : Stage.declaration.Explains (m.scan d) := by
  intro faults hfaults
  have hown : ∀ isController, ∀ fault ∈ specialParameterFaults m.resolvedParameters ++
      controllerFaults isController m.resolvedParameters, Stage.declaration.finds fault = true := by
    intro isController fault hfault
    rcases List.mem_append.mp hfault with hspecial | hcontroller
    · exact (finds_of_mem_specialParameterFaults hspecial).1
    · rw [eq_of_mem_ite_singleton hcontroller]
      rfl
  unfold scan at hfaults
  split at hfaults
  · rename_i hcollect
    cases hfaults
    exact Markers.collect_explained m.markers _ hcollect
  · dsimp only at hfaults
    split at hfaults
    · rename_i hshape
      cases hfaults
      refine ⟨List.append_ne_nil_of_right_ne_nil _ (List.cons_ne_nil _ _), fun fault hfault => ?_⟩
      rcases List.mem_append.mp hfault with hfault | hfault
      · exact hown _ fault hfault
      · rw [List.mem_singleton.mp hfault]
        exact ReturnShape.finds_of_ofType hshape
    · split at hfaults
      · cases hfaults
      · rename_i hne
        cases hfaults
        exact ⟨fun hnil => hne (List.isEmpty_iff.mpr hnil), hown _⟩

/-- A method that is not prepared has faults of the declaration. -/
theorem prepare_explained (m : Method) (d : Defaults) : Stage.declaration.Explains (m.prepare d) := by
  unfold prepare
  split
  · rename_i faults hscan
    intro faults' hfaults
    cases hfaults
    exact m.scan_explained d faults hscan
  · split
    · rename_i fault hintent
      apply Stage.explains_singleton
      unfold RequestSpec.intentFault? at hintent
      split at hintent
      · cases hintent
        rfl
      · cases hintent
    · exact nofun

/-! ## Params providers -/

/-- A params provider that does not match its target has a fault of its own. -/
theorem finds_of_mem_targetFaults {m : Method} {target : String} {requests : List Method} {fault : Fault}
    (h : fault ∈ m.targetFaults target requests) : Stage.provision.finds fault = true := by
  unfold targetFaults at h
  split at h
  · rw [List.mem_singleton.mp h]
    rfl
  · dsimp only at h
    split at h
    · cases h
    · rw [List.mem_singleton.mp h]
      rfl

/-- A params provider that is not resolved has faults of a params provider. -/
theorem resolveProvider_explained (m : Method) (requests : List Method) :
    Stage.provision.Explains (m.resolveProvider requests) := by
  intro faults hfaults
  unfold resolveProvider at hfaults
  dsimp only at hfaults
  split at hfaults
  · cases hfaults
  · rename_i kind? found hno
    cases hfaults
    refine ⟨fun hnil => ?_, fun fault hfault => ?_⟩
    · -- without a kind there is the fault that it lacks
      cases hkind : m.returnType.providedKind? with
      | none => simp [providerFaults, providedKindFaults, hkind] at hnil
      | some kind => exact hno kind hkind hnil
    · simp only [providerFaults, List.mem_append] at hfault
      rcases hfault with (hkind | hspecial) | htarget
      · unfold providedKindFaults at hkind
        split at hkind
        · cases hkind
        · rw [List.mem_singleton.mp hkind]
          rfl
      · exact (finds_of_mem_specialParameterFaults hspecial).2
      · exact finds_of_mem_targetFaults htarget

end Method

/-! ## A request beside the others -/

/-- A request that is not finished has a fault of its reuse or those of validation. -/
theorem RequestSpec.finish_explained (own : RequestSpec) (pool : Pool) : Stage.combination.Explains (own.finish pool) := by
  unfold finish
  split
  · rename_i fault hreuse
    apply Stage.explains_singleton
    simp [Stage.finds, isAboutReuse_of_resolveReuse hreuse]
  · rename_i spec hspec
    intro faults hfaults
    unfold validate at hfaults
    split at hfaults
    · cases hfaults
    · rename_i hne
      cases hfaults
      refine ⟨fun hnil => hne (List.isEmpty_iff.mpr hnil), fun fault hfault => ?_⟩
      simp [Stage.finds, isOfValidation_of_mem_faults hfault]

end DataRequests
