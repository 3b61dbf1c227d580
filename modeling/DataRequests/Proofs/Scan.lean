import DataRequests.Proofs.Markers
import DataRequests.Proofs.Sources
import DataRequests.Resolution.Scan

/-!
# What scanning establishes

Statements about `Method.scan` and `Method.prepare`: when they succeed, and what then holds of the spec (`Prepared`). None of
it depends on the other methods of the interface, so it is what the reuse of a handle starts from.
-/

namespace DataRequests

/-! ## The shape of the result -/

/-- What a shape says about the handle and the payload agrees with its kind. -/
structure ReturnShape.Agrees (shape : ReturnShape) (isController : Bool) : Prop where
  controller : isController = true ↔ shape.returnKind = .controllerReference
  payload : shape.payloadBuilder.isSome = true ↔ shape.returnKind = .sourceParamsOnly
  payloadKind : ∀ kind, shape.payloadBuilder = some kind → kind = .network ∨ kind = .database

/-- A payload can be built for the network and the database and for nothing else. -/
theorem SourceKind.hasPayload_iff (kind : SourceKind) : kind.hasPayload = true ↔ kind = .network ∨ kind = .database := by
  cases kind <;> simp [hasPayload]

/-- How a type hands its data back tells whether it is the handle, and whether it is a payload and for which kind. -/
theorem TypeExpr.returnKind_agrees {t : TypeExpr} {isController : Bool} {kind : ReturnKind} {payload : Option SourceKind}
    (h : t.returnKind isController = .ok (kind, payload)) :
    (isController = true ↔ kind = .controllerReference) ∧ (payload.isSome = true ↔ kind = .sourceParamsOnly) ∧
      ∀ k, payload = some k → k = .network ∨ k = .database := by
  unfold TypeExpr.returnKind at h
  split at h
  case h_6 carried _ =>
    dsimp only at h
    split at h
    · rename_i hpayload
      cases h
      simp [← SourceKind.hasPayload_iff, hpayload]
    · cases h
  all_goals cases h <;> simp

/-- The shape of a return type agrees with the marker of the controller reference. -/
theorem ReturnShape.ofType_agrees {t : TypeExpr} {isController : Bool} {shape : ReturnShape}
    (h : ReturnShape.ofType t isController = .ok shape) : shape.Agrees isController := by
  unfold ReturnShape.ofType at h
  split at h
  · cases h
  · rename_i kind payload hkind
    obtain ⟨hcontroller, hpayload, hpayloadKind⟩ := TypeExpr.returnKind_agrees hkind
    split at h
    · cases h
    · cases h
      exact ⟨hcontroller, hpayload, hpayloadKind⟩

/-! ## Specs -/

/-- A kind is enabled by the markers of a method exactly when they declare it. -/
theorem Markers.isEnabled_sources (markers : Markers) (method : String) (isSingleResult : Bool) :
    (markers.sources method isSingleResult).isEnabled = (markers.sources method isSingleResult).isDeclared := by
  funext kind
  cases kind
  · show (scanNetwork markers.network markers.transport).enabled = (scanNetwork markers.network markers.transport).declared
    unfold scanNetwork
    split <;> rfl
  · show (scanDatabase markers.database isSingleResult).enabled = (scanDatabase markers.database isSingleResult).declared
    unfold scanDatabase
    split <;> rfl
  · show (scanMemory markers.memory).enabled = (scanMemory markers.memory).declared
    unfold scanMemory
    split <;> rfl
  · show (scanKeyValueStore markers.keyValueStore method).enabled = (scanKeyValueStore markers.keyValueStore method).declared
    unfold scanKeyValueStore
    split <;> rfl

/-- Scanning succeeds exactly when no marker is repeated, no special role is played twice, a controller reference has no
parameters and the return type has a shape; the spec is then that of the sorted markers and the shape. -/
theorem Method.scan_eq_ok_iff (m : Method) (d : Defaults) (r : RequestSpec) :
    m.scan d = .ok r ↔
      (m.markers.map Marker.key).Nodup ∧ specialParameterFaults m.resolvedParameters = [] ∧
        ((Markers.ofFirst m.markers).controller.isSome = true → m.resolvedParameters = []) ∧
        ∃ shape, ReturnShape.ofType m.returnType (Markers.ofFirst m.markers).controller.isSome = .ok shape ∧
          r = m.specOf (Markers.ofFirst m.markers) shape d := by
  have hcontroller : ∀ c : Bool, controllerFaults c m.resolvedParameters = [] ↔ (c = true → m.resolvedParameters = []) := by
    intro c
    cases c <;> simp [controllerFaults]
  rw [← hcontroller]
  unfold Method.scan
  split
  · rename_i faults hcollect
    refine iff_of_false nofun fun h => ?_
    rw [(Markers.collect_eq_ok_iff _ _).mpr ⟨h.1, rfl⟩] at hcollect
    cases hcollect
  · rename_i markers hcollect
    obtain ⟨hkeys, rfl⟩ := (Markers.collect_eq_ok_iff _ _).mp hcollect
    dsimp only
    split
    · rename_i hshape
      simp [hshape]
    · rename_i shape hshape
      simp only [List.isEmpty_iff, List.append_eq_nil_iff]
      split
      · rename_i hfaults
        simp [hkeys, hfaults, hshape, eq_comm]
      · rename_i hfaults
        exact iff_of_false nofun fun h => hfaults ⟨h.2.1, h.2.2.1⟩

/-- A spec has an intent exactly when it declares a source, reuses another method, or is a controller reference that comes
through the constructor. -/
theorem RequestSpec.intentFault?_eq_none_iff (r : RequestSpec) :
    r.intentFault? = none ↔
      r.sources.declaresAny = true ∨ r.reuses.isSome = true ∨ r.isController = true ∧ r.boundInConstructor = true := by
  unfold RequestSpec.intentFault?
  cases r.sources.declaresAny <;> cases r.reuses <;> cases r.isController <;> cases r.boundInConstructor <;> simp

/-- A method is prepared exactly when scanning gives a spec with an intent. -/
theorem Method.prepare_eq_ok_iff (m : Method) (d : Defaults) (r : RequestSpec) :
    m.prepare d = .ok r ↔ m.scan d = .ok r ∧ r.intentFault? = none := by
  unfold Method.prepare
  split
  · rename_i h
    simp [h]
  · rename_i spec h
    split
    · rename_i hfault
      refine iff_of_false nofun fun ⟨hr, hnone⟩ => ?_
      cases h.symm.trans hr
      cases hfault.symm.trans hnone
    · rename_i hnone
      rw [h]
      constructor
      · intro hr
        cases hr
        exact ⟨rfl, hnone⟩
      · exact And.left

/-- What holds of a spec once its method has been scanned and has an intent. -/
structure RequestSpec.Prepared (r : RequestSpec) : Prop where
  enabled : r.sources.isEnabled = r.sources.isDeclared
  intent : r.sources.declaresAny = true ∨ r.reuses.isSome = true ∨ r.isController = true ∧ r.boundInConstructor = true
  controller : r.isController = true ↔ r.returnKind = .controllerReference
  parameters : r.isController = true → r.parameters = []
  payload : r.payloadBuilder.isSome = true ↔ r.returnKind = .sourceParamsOnly
  payloadKind : ∀ kind, r.payloadBuilder = some kind → kind = .network ∨ kind = .database
  optional : r.optionalBinding = true → r.boundInConstructor = true
  bound : r.boundInConstructor = true → r.isController = true
  binding : r.bindingName = r.name

/-- Preparing a method gives a prepared spec. -/
theorem Method.prepared_of_prepare {m : Method} {d : Defaults} {r : RequestSpec} (h : m.prepare d = .ok r) :
    r.Prepared := by
  obtain ⟨hscan, hintent⟩ := (m.prepare_eq_ok_iff d r).mp h
  obtain ⟨-, -, hparameters, shape, hshape, rfl⟩ := (m.scan_eq_ok_iff d r).mp hscan
  have hagrees := ReturnShape.ofType_agrees hshape
  refine ⟨?_, (RequestSpec.intentFault?_eq_none_iff _).mp hintent, hagrees.controller, hparameters, hagrees.payload,
    hagrees.payloadKind, ?_, ?_, rfl⟩
  · simp [Method.specOf, Markers.isEnabled_sources]
  · simp only [Method.specOf]
    cases (Markers.ofFirst m.markers).controller <;> simp
    intro h
    exact Or.inr h
  · simp only [Method.specOf]
    cases (Markers.ofFirst m.markers).controller <;> simp

/-- A scanned spec has the name of its method and reuses what its method reuses. -/
theorem Method.scan_name_reuses {m : Method} {d : Defaults} {r : RequestSpec} (h : m.scan d = .ok r) :
    r.name = m.name ∧ r.reuses = m.reuseTarget := by
  obtain ⟨-, -, -, shape, -, rfl⟩ := (m.scan_eq_ok_iff d r).mp h
  exact ⟨rfl, rfl⟩

end DataRequests
