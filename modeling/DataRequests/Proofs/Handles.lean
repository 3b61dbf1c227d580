import DataRequests.Proofs.References
import DataRequests.Proofs.System
import DataRequests.Request.Plan

/-!
# Whether the handle of a reuse is built

In a document that builds, a reuse always leads to a request in the output. Whether that request has a handle at all is another
matter: a lookup takes every method that validates, and a plan builds no handle for a raw transport call and for source
parameters (`hasHandle_iff_of_build`).
-/

namespace DataRequests

/-- Whether there is a handle for a request of the interface: it is built for the request, or the constructor receives it. -/
def InterfaceSpec.HasHandle (spec : InterfaceSpec) (q : RequestSpec) : Prop :=
  q.handleSources ≠ none ∨ ∃ b ∈ spec.constructorShape.externalBindings, b.bindingName = q.bindingName

instance (spec : InterfaceSpec) (q : RequestSpec) : Decidable (spec.HasHandle q) :=
  inferInstanceAs (Decidable (_ ∨ _))

namespace RequestSpec

/-- A request that reuses no other has a handle built when it neither receives one nor does without. -/
theorem handleSources_ne_none_iff {q : RequestSpec} (hnone : q.reuses = none) :
    q.handleSources ≠ none ↔
      q.boundInConstructor = false ∧ q.returnKind ≠ .rawTransportCall ∧ q.returnKind ≠ .sourceParamsOnly := by
  unfold handleSources ownsHandle
  cases q.boundInConstructor <;> cases q.returnKind <;> simp [hnone]

/-- A request asks a binding of the constructor when it receives its handle there and reuses no other. -/
theorem externalBinding?_eq_some_iff {q : RequestSpec} {b : ExternalBinding} :
    q.externalBinding? = some b ↔
      (q.boundInConstructor = true ∧ q.reuses = none) ∧ b = ⟨q.bindingName, q.dataType, q.optionalBinding⟩ := by
  unfold externalBinding?
  cases q.boundInConstructor <;> cases q.reuses <;> simp [eq_comm]

end RequestSpec

namespace Interface

variable {i : Interface} {outer : Defaults}

/-- A request in the output that reuses no other is as it was prepared. -/
theorem prepared_of_mem_requests {q : RequestSpec} (hq : q ∈ (i.spec outer).requests) (hnone : q.reuses = none) :
    q.Prepared := by
  obtain ⟨own, hown, hresolve, -⟩ := origin_of_mem_requests hq
  rcases (own.resolveReuse_eq_ok_iff _ q).mp hresolve with ⟨-, rfl⟩ | ⟨target, handle, hsome, -, -, rfl⟩
  · exact hown
  · rw [RequestSpec.merge_eq] at hnone
    cases hsome.symm.trans hnone

/-- The constructor receives the handle of a request that reuses no other exactly when the request is bound there: the binding
has the name of the request, and no other request has it. -/
theorem externalBinding_iff {q : RequestSpec} (hone : (i.spec outer).requests.filter (·.name = q.name) = [q])
    (hnone : q.reuses = none) :
    (∃ b ∈ (i.spec outer).constructorShape.externalBindings, b.bindingName = q.bindingName) ↔
      q.boundInConstructor = true := by
  have hq : q ∈ (i.spec outer).requests := List.mem_of_mem_filter (hone ▸ List.mem_singleton_self q)
  constructor
  · rintro ⟨b, hb, hbinding⟩
    obtain ⟨q', hq', hsome⟩ := List.mem_filterMap.mp hb
    obtain ⟨⟨hbound, hnone'⟩, rfl⟩ := RequestSpec.externalBinding?_eq_some_iff.mp hsome
    have hsame : q'.name = q.name := by
      rw [← (prepared_of_mem_requests hq' hnone').binding, ← (prepared_of_mem_requests hq hnone).binding]
      exact hbinding
    have hmem : q' ∈ (i.spec outer).requests.filter (·.name = q.name) :=
      List.mem_filter.mpr ⟨hq', decide_eq_true hsame⟩
    rw [hone, List.mem_singleton] at hmem
    exact hmem ▸ hbound
  · intro hbound
    refine ⟨⟨q.bindingName, q.dataType, q.optionalBinding⟩, List.mem_filterMap.mpr ⟨q, hq, ?_⟩, rfl⟩
    exact RequestSpec.externalBinding?_eq_some_iff.mpr ⟨⟨hbound, hnone⟩, rfl⟩

/-- A request that reuses no other has a handle exactly when it is neither a raw transport call nor source parameters. -/
theorem hasHandle_iff {q : RequestSpec} (hone : (i.spec outer).requests.filter (·.name = q.name) = [q])
    (hnone : q.reuses = none) :
    (i.spec outer).HasHandle q ↔ q.returnKind ≠ .rawTransportCall ∧ q.returnKind ≠ .sourceParamsOnly := by
  have hprepared := prepared_of_mem_requests (List.mem_of_mem_filter (hone ▸ List.mem_singleton_self q)) hnone
  have hkind : q.boundInConstructor = true → q.returnKind = .controllerReference :=
    fun hbound => hprepared.controller.mp (hprepared.bound hbound)
  rw [InterfaceSpec.HasHandle, externalBinding_iff hone hnone, RequestSpec.handleSources_ne_none_iff hnone]
  cases hbound : q.boundInConstructor with
  | false => simp
  | true => simp [hkind hbound]

end Interface

/-- In a document that builds, the request that another one reuses is in the output and the two use one field, but that field
holds a handle exactly when the reused request is neither a raw transport call nor source parameters. -/
theorem hasHandle_iff_of_build {d : Document} {outer : Defaults} {system : ResolvedSystem} {spec : InterfaceSpec}
    {r : RequestSpec} {target : String} (hbuild : d.build outer = .ok system) (hspec : spec ∈ system.interfaces.values)
    (hr : r ∈ spec.requests) (hreuse : r.reuses = some target) :
    ∃ q, spec.request? target = some q ∧ q.bindingName = r.bindingName ∧
      (spec.HasHandle q ↔ q.returnKind ≠ .rawTransportCall ∧ q.returnKind ≠ .sourceParamsOnly) := by
  obtain ⟨i, -, herrors, rfl⟩ := Document.exists_of_build hbuild hspec
  have hrepeat : i.repeatErrors = [] := by
    simp only [Interface.allErrors, List.append_eq_nil_iff] at herrors
    exact herrors.1.1.1
  obtain ⟨q, hone, rfl, hnone, -, hbinding⟩ := Interface.filter_requests_of_unrepeated hrepeat hr hreuse
  refine ⟨q, ?_, hbinding, Interface.hasHandle_iff hone hnone⟩
  rw [InterfaceSpec.request?, ← List.head?_filter, hone]
  rfl

/-- A request that reuses a handle from the constructor, and one that reuses a raw transport call. -/
def calledItems : Document where
  interfaces :=
    [{ name := "Items"
       methods :=
        [{ name := "items", returnType := .wrapping .controller "Item",
           markers := [.controllerReference { inConstructor := true }] },
         { name := "getItem", returnType := .wrapping .request "Item", markers := [.reuse "items"] },
         { name := "fetchItem", returnType := .wrapping .call "Item", markers := [.network {}] },
         { name := "getItemAgain", returnType := .wrapping .request "Item", markers := [.reuse "fetchItem"] }] }]

/-- The document builds, and the handle from the constructor is there for the request that reuses it. -/
theorem calledItems_hasHandle :
    ∃ system, calledItems.build {} = .ok system ∧ ∃ spec ∈ system.interfaces.values, ∃ q,
      spec.request? "items" = some q ∧ spec.HasHandle q := by
  obtain ⟨system, hbuild, spec, hspec, r, hr, hreuse, hkind⟩ : ∃ system, calledItems.build {} = .ok system ∧
      ∃ spec ∈ system.interfaces.values, ∃ r ∈ spec.requests, r.reuses = some "items" ∧
        ∀ q ∈ spec.request? "items", q.returnKind = .controllerReference := ⟨_, rfl, by decide⟩
  obtain ⟨q, hq, -, hhandle⟩ := hasHandle_iff_of_build hbuild hspec hr hreuse
  exact ⟨system, hbuild, spec, hspec, q, hq, hhandle.mpr (by simp [hkind q hq])⟩

/-- An asynchronous request that reuses a raw transport call is resolved without an error, and there is no handle for it. -/
theorem calledItems_not_hasHandle :
    ¬∀ system, calledItems.build {} = .ok system → ∀ spec ∈ system.interfaces.values, ∀ r ∈ spec.requests,
      r.returnKind = .asyncRequest → ∀ target, r.reuses = some target →
        ∃ q, spec.request? target = some q ∧ spec.HasHandle q := by
  intro hall
  obtain ⟨system, hbuild, spec, hspec, r, hr, hkind, hreuse, hnone⟩ : ∃ system, calledItems.build {} = .ok system ∧
      ∃ spec ∈ system.interfaces.values, ∃ r ∈ spec.requests, r.returnKind = .asyncRequest ∧
        r.reuses = some "fetchItem" ∧ ∀ q ∈ spec.request? "fetchItem", ¬spec.HasHandle q := ⟨_, rfl, by decide⟩
  obtain ⟨q, hq, hhandle⟩ := hall system hbuild spec hspec r hr hkind "fetchItem" hreuse
  exact hnone q hq hhandle

end DataRequests
