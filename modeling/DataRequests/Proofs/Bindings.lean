import DataRequests.Proofs.Handles
import DataRequests.Proofs.WellFormed

/-!
# What the constructor binds

The constructor receives the handles of the requests that are bound there and reuse no other. A request that reuses another one may be
bound there too: because the other is, or because of its own marker alone. In the second case the field that it uses belongs to a
handle which is built, and no binding has its name (`bindings_of_build`).
-/

namespace DataRequests

namespace Interface

variable {i : Interface} {outer : Defaults} {r : RequestSpec}

/-- A request in the output is the only one of its name. -/
theorem filter_requests_self (hr : r ∈ (i.spec outer).requests) :
    (i.spec outer).requests.filter (·.name = r.name) = [r] := by
  obtain ⟨m, hfirst, hrequest, hresolved⟩ := (i.mem_spec_requests outer r).mp hr
  rw [filter_spec_requests, hfirst, Option.filter_some, if_pos hrequest, Option.bind_some, hresolved]
  rfl

/-- When no name is repeated, there is a binding for a request that is bound in the constructor exactly when the method that it
reuses, if any, is bound there too. -/
theorem externalBinding_iff_of_bound (hrepeat : i.repeatErrors = []) (hr : r ∈ (i.spec outer).requests)
    (hbound : r.boundInConstructor = true) :
    (∃ b ∈ (i.spec outer).constructorShape.externalBindings, b.bindingName = r.bindingName) ↔
      ∀ target, r.reuses = some target →
        ∃ q, (i.spec outer).request? target = some q ∧ q.boundInConstructor = true := by
  cases hreuse : r.reuses with
  | none => simp [externalBinding_iff (filter_requests_self hr) hreuse, hbound]
  | some target =>
    obtain ⟨q, hone, rfl, hnone, -, hbinding⟩ := filter_requests_of_unrepeated hrepeat hr hreuse
    have hfirst : (i.spec outer).request? q.name = some q := by
      rw [InterfaceSpec.request?, ← List.head?_filter, hone]
      rfl
    rw [← hbinding, externalBinding_iff hone hnone]
    simp [hfirst]

/-- A second constructor is asked for exactly when a binding is optional, or when a request that reuses another one is marked so. -/
theorem emitsOptionalConstructor_iff :
    (i.spec outer).constructorShape.emitsOptionalConstructor = true ↔
      (∃ b ∈ (i.spec outer).constructorShape.externalBindings, b.optional = true) ∨
        ∃ r ∈ (i.spec outer).requests, r.reuses.isSome = true ∧ r.optionalBinding = true := by
  show (i.spec outer).requests.any (·.optionalBinding) = true ↔ _
  rw [List.any_eq_true]
  constructor
  · rintro ⟨r, hr, hoptional⟩
    cases hreuse : r.reuses with
    | some target => exact Or.inr ⟨r, hr, by simp [hreuse], hoptional⟩
    | none =>
      -- a request that may be left out is bound in the constructor, and without a reuse it has a binding there
      obtain ⟨own, hown, hresolve, hvalid⟩ := origin_of_mem_requests hr
      have hbound := (RequestSpec.wellFormed_of_resolveReuse hown hresolve hvalid).optional hoptional
      have hsome := RequestSpec.externalBinding?_eq_some_iff.mpr ⟨⟨hbound, hreuse⟩, rfl⟩
      exact Or.inl ⟨_, List.mem_filterMap.mpr ⟨r, hr, hsome⟩, hoptional⟩
  · rintro (⟨b, hb, hoptional⟩ | ⟨r, hr, -, hoptional⟩)
    · obtain ⟨r, hr, hsome⟩ := List.mem_filterMap.mp hb
      obtain ⟨-, rfl⟩ := RequestSpec.externalBinding?_eq_some_iff.mp hsome
      exact ⟨r, hr, hoptional⟩
    · exact ⟨r, hr, hoptional⟩

end Interface

/-- In a document that builds, a request that is bound in the constructor has a binding there exactly when the request that it reuses, if
any, is bound there too; and a second constructor is asked for exactly when a binding is optional or a request that reuses another
one is marked so. -/
theorem bindings_of_build {d : Document} {outer : Defaults} {system : ResolvedSystem} {spec : InterfaceSpec}
    (hbuild : d.build outer = .ok system) (hspec : spec ∈ system.interfaces.values) :
    (∀ r ∈ spec.requests, r.boundInConstructor = true →
      ((∃ b ∈ spec.constructorShape.externalBindings, b.bindingName = r.bindingName) ↔
        ∀ target, r.reuses = some target → ∃ q, spec.request? target = some q ∧ q.boundInConstructor = true)) ∧
    (spec.constructorShape.emitsOptionalConstructor = true ↔
      (∃ b ∈ spec.constructorShape.externalBindings, b.optional = true) ∨
        ∃ r ∈ spec.requests, r.reuses.isSome = true ∧ r.optionalBinding = true) := by
  obtain ⟨i, hrepeat, rfl⟩ := Document.exists_unrepeated_of_build hbuild hspec
  refine ⟨fun r hr hbound => ?_, Interface.emitsOptionalConstructor_iff⟩
  exact Interface.externalBinding_iff_of_bound hrepeat hr hbound

/-- A handle that is built, a controller reference to it that is marked as optional in the constructor, and a handle from the
constructor. -/
def handedItems : Document where
  interfaces :=
    [{ name := "Items"
       methods :=
        [{ name := "items", returnType := .wrapping .request "Item", markers := [.network {}] },
         { name := "itemsHandle", returnType := .wrapping .controller "Item",
           markers := [.controllerReference { optional := true }, .reuse "items"] },
         { name := "notes", returnType := .wrapping .controller "Note",
           markers := [.controllerReference { inConstructor := true }] }] }]

/-- The document builds. The constructor receives the handle of the last method, and a second constructor is asked for on account of the
second one. -/
theorem handedItems_bindings :
    ∃ system, handedItems.build {} = .ok system ∧ ∃ spec ∈ system.interfaces.values,
      (∃ b ∈ spec.constructorShape.externalBindings, b.bindingName = "notes") ∧
        spec.constructorShape.emitsOptionalConstructor = true := by
  obtain ⟨system, hbuild, spec, hspec, ⟨r, hr, hname, hbound, hnone⟩, r', hr', hreuse, hoptional⟩ :
      ∃ system, handedItems.build {} = .ok system ∧ ∃ spec ∈ system.interfaces.values,
        (∃ r ∈ spec.requests, r.bindingName = "notes" ∧ r.boundInConstructor = true ∧ r.reuses = none) ∧
          ∃ r ∈ spec.requests, r.reuses.isSome = true ∧ r.optionalBinding = true := ⟨_, rfl, by decide⟩
  obtain ⟨hbindings, hemits⟩ := bindings_of_build hbuild hspec
  refine ⟨system, hbuild, spec, hspec, ?_, hemits.mpr (Or.inr ⟨r', hr', hreuse, hoptional⟩)⟩
  rw [← hname]
  refine (hbindings r hr hbound).mpr fun target htarget => ?_
  cases hnone.symm.trans htarget

/-- The controller reference is bound in the constructor and there is no binding for the field that it uses; and a second constructor is
asked for although no binding may be left out. -/
theorem handedItems_not_bindings :
    (¬∀ system, handedItems.build {} = .ok system → ∀ spec ∈ system.interfaces.values, ∀ r ∈ spec.requests,
      r.boundInConstructor = true → ∃ b ∈ spec.constructorShape.externalBindings, b.bindingName = r.bindingName) ∧
    ¬∀ system, handedItems.build {} = .ok system → ∀ spec ∈ system.interfaces.values,
      (spec.constructorShape.emitsOptionalConstructor = true ↔
        ∃ b ∈ spec.constructorShape.externalBindings, b.optional = true) := by
  obtain ⟨system, hbuild, spec, hspec, ⟨r, hr, hbound, hmissing⟩, hemits, hneeded⟩ :
      ∃ system, handedItems.build {} = .ok system ∧ ∃ spec ∈ system.interfaces.values,
        (∃ r ∈ spec.requests, r.boundInConstructor = true ∧
          ∀ b ∈ spec.constructorShape.externalBindings, b.bindingName ≠ r.bindingName) ∧
        spec.constructorShape.emitsOptionalConstructor = true ∧
          ∀ b ∈ spec.constructorShape.externalBindings, b.optional = false := ⟨_, rfl, by decide⟩
  constructor
  · intro hall
    obtain ⟨b, hb, hbinding⟩ := hall system hbuild spec hspec r hr hbound
    exact hmissing b hb hbinding
  · intro hall
    obtain ⟨b, hb, hoptional⟩ := (hall system hbuild spec hspec).mp hemits
    cases (hneeded b hb).symm.trans hoptional

end DataRequests
