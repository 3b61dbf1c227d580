import DataRequests.Proofs.Outcome

/-!
# Whether a reuse leads to a request that is output

A lookup knows the later definitions of a name, which are never output. So a reuse that resolves need not lead to a request in
the output; it does exactly when the first method of the name is a request that reuses no other (`refers_iff_first`).
-/

namespace DataRequests

/-- The reuse of `target` by a request leads to a request of the interface: exactly one other request has the name, it reuses
nothing and has the same data type. -/
def InterfaceSpec.Refers (spec : InterfaceSpec) (r : RequestSpec) (target : String) : Prop :=
  ∃ q, (spec.requests.filter fun q => q.name = target && q != r) = [q] ∧ q.reuses = none ∧ q.dataType = r.dataType

/-- What a reuse leads to is a request of the interface. -/
theorem InterfaceSpec.Refers.exists_mem {spec : InterfaceSpec} {r : RequestSpec} {target : String}
    (h : spec.Refers r target) : ∃ q ∈ spec.requests, q.name = target ∧ q.reuses = none := by
  obtain ⟨q, hone, hnone, -⟩ := h
  obtain ⟨hq, hothers⟩ := List.mem_filter.mp (hone ▸ List.mem_singleton_self q)
  exact ⟨q, hq, of_decide_eq_true (Bool.and_eq_true_iff.mp hothers).1, hnone⟩

namespace Interface

variable {i : Interface} {outer : Defaults} {r : RequestSpec} {target : String}

/-- A method reuses in the output what it reuses in the declaration. -/
theorem reuses_of_resolved? {m : Method} (h : i.resolved? outer m = some r) : r.reuses = m.reuseTarget := by
  obtain ⟨own, hprepare, hreuse, -⟩ := (i.resolved?_eq_some_iff outer m r).mp h
  rw [(RequestSpec.resolveReuse_keeps hreuse).1]
  exact (Method.scan_name_reuses ((m.prepare_eq_ok_iff _ own).mp hprepare).1).2

/-- The reuse of a request in the output has found a handle of the same data type, and the request uses the field of that
handle. -/
theorem lookup_of_mem_requests (hr : r ∈ (i.spec outer).requests) (hreuse : r.reuses = some target) :
    ∃ handle, (i.pool outer).lookup r.name target = .ok handle ∧ handle.dataType = r.dataType ∧
      handle.bindingName = r.bindingName := by
  obtain ⟨own, -, hresolve, -⟩ := origin_of_mem_requests hr
  rcases (own.resolveReuse_eq_ok_iff _ r).mp hresolve with ⟨hnone, rfl⟩ | ⟨other, handle, hsome, hlookup, htype, rfl⟩
  · cases hnone.symm.trans hreuse
  · rw [RequestSpec.merge_eq] at hreuse ⊢
    cases hsome.symm.trans hreuse
    exact ⟨handle, hlookup, by simp [htype], rfl⟩

/-- A method that reuses no other is output exactly as it resolves on its own. -/
theorem resolved?_eq_standalone {m : Method} (hnone : m.reuseTarget = none) :
    i.resolved? outer m = some r ↔ m.standalone (i.defaults outer) = .ok r := by
  have hreuses : ∀ own, m.prepare (i.defaults outer) = .ok own → own.reuses = none := by
    intro own hown
    rw [(Method.scan_name_reuses ((m.prepare_eq_ok_iff _ own).mp hown).1).2, hnone]
  rw [resolved?_eq_some_iff, m.standalone_eq_ok_iff]
  constructor
  · rintro ⟨own, hown, hresolve, hvalid⟩
    rw [RequestSpec.resolveReuse, hreuses own hown] at hresolve
    cases hresolve
    exact ⟨hown, hvalid⟩
  · rintro ⟨hown, hvalid⟩
    exact ⟨r, hown, by rw [RequestSpec.resolveReuse, hreuses r hown], hvalid⟩

/-- When the first method of a reused name is a request that reuses no other, it is the one request of the name in the
output, and the handle of the reuse is its handle. -/
theorem filter_requests_of_reuse {s : Method} (hr : r ∈ (i.spec outer).requests) (hreuse : r.reuses = some target)
    (hfirst : i.first? target = some s) (hrequest : s.isRequest = true) (hnone : s.reuseTarget = none) :
    ∃ q, (i.spec outer).requests.filter (·.name = target) = [q] ∧ q.name = target ∧ q.reuses = none ∧
      q.dataType = r.dataType ∧ q.bindingName = r.bindingName := by
  obtain ⟨handle, hlookup, htype, hbinding⟩ := lookup_of_mem_requests hr hreuse
  obtain ⟨hname, -, hreuses, hne, -, -⟩ := handle_of_lookup hlookup
  obtain ⟨only, hone, hhandle⟩ := lookup_pool_eq_ok_iff.mp hlookup
  have hs : s ∈ i.reusable r.name target :=
    mem_reusable.mpr ⟨mem_declaredRequests.mpr ⟨mem_of_first? hfirst, hrequest⟩, hnone, name_of_first? hfirst, hne⟩
  rw [hone, List.mem_singleton] at hs
  subst hs
  have hresolved : i.resolved? outer s = some handle := (resolved?_eq_standalone hnone).mpr hhandle
  refine ⟨handle, ?_, hname, hreuses, htype, hbinding⟩
  rw [filter_spec_requests, hfirst, Option.filter_some, if_pos hrequest, Option.bind_some, hresolved]
  rfl

/-- When no name is repeated, a reuse in the output always leads to the one request of its name there. -/
theorem filter_requests_of_unrepeated (hrepeat : i.repeatErrors = []) (hr : r ∈ (i.spec outer).requests)
    (hreuse : r.reuses = some target) :
    ∃ q, (i.spec outer).requests.filter (·.name = target) = [q] ∧ q.name = target ∧ q.reuses = none ∧
      q.dataType = r.dataType ∧ q.bindingName = r.bindingName := by
  obtain ⟨handle, hlookup, -, -⟩ := lookup_of_mem_requests hr hreuse
  obtain ⟨s, hone, -⟩ := lookup_pool_eq_ok_iff.mp hlookup
  obtain ⟨hs, hnone, rfl, -⟩ := mem_reusable.mp (hone ▸ List.mem_singleton_self s)
  obtain ⟨hmem, hrequest⟩ := mem_declaredRequests.mp hs
  exact filter_requests_of_reuse hr hreuse (first?_of_mem hrepeat hmem) hrequest hnone

/-- The other requests of the name that a request reuses are all the requests of that name: none reuses itself. -/
theorem filter_others (hr : r ∈ (i.spec outer).requests) (hreuse : r.reuses = some target) (l : List RequestSpec) :
    (l.filter fun q => q.name = target && q != r) = l.filter (·.name = target) := by
  obtain ⟨handle, hlookup, -, -⟩ := lookup_of_mem_requests hr hreuse
  have hne : target ≠ r.name := (handle_of_lookup hlookup).2.2.2.1
  refine List.filter_congr fun q _ => ?_
  by_cases hname : q.name = target
  · have hq : q ≠ r := fun h => hne (h ▸ hname.symm)
    simp [hname, hq]
  · simp [hname]

end Interface

/-- The reuse of a request in the output leads to a request in the output exactly when the first method of the reused name is a
request that reuses no other. -/
theorem refers_iff_first {i : Interface} {outer : Defaults} {r : RequestSpec} {target : String}
    (hr : r ∈ (i.resolve outer).1.requests) (hreuse : r.reuses = some target) :
    (i.resolve outer).1.Refers r target ↔
      ∃ s, i.first? target = some s ∧ s.isRequest = true ∧ s.reuseTarget = none := by
  constructor
  · intro href
    obtain ⟨q, hq, rfl, hnone⟩ := href.exists_mem
    obtain ⟨s, hfirst, hrequest, hresolved⟩ := (i.mem_spec_requests outer q).mp hq
    exact ⟨s, hfirst, hrequest, (Interface.reuses_of_resolved? hresolved).symm.trans hnone⟩
  · rintro ⟨s, hfirst, hrequest, hnone⟩
    obtain ⟨q, hone, -, hreuses, htype, -⟩ := Interface.filter_requests_of_reuse hr hreuse hfirst hrequest hnone
    exact ⟨q, (Interface.filter_others hr hreuse _).trans hone, hreuses, htype⟩

/-- Two definitions of one name, of which the first reuses a third method. -/
def shadowedItems : Interface where
  name := "Items"
  methods :=
    [{ name := "items", returnType := .wrapping .request "Item", markers := [.network {}] },
     { name := "getItem", returnType := .wrapping .request "Item", markers := [.reuse "items"] },
     { name := "getItem", returnType := .wrapping .request "Item", markers := [.memory {}] },
     { name := "getItemAgain", returnType := .wrapping .request "Item", markers := [.reuse "getItem"] }]

/-- The reuse by the first definition leads to the third method in the output. -/
theorem shadowedItems_refers :
    ∃ r ∈ (shadowedItems.resolve {}).1.requests, r.name = "getItem" ∧ (shadowedItems.resolve {}).1.Refers r "items" := by
  obtain ⟨r, hr, hname, hreuse⟩ : ∃ r ∈ (shadowedItems.resolve {}).1.requests,
      r.name = "getItem" ∧ r.reuses = some "items" := by decide
  exact ⟨r, hr, hname, (refers_iff_first hr hreuse).mpr ⟨_, rfl, rfl, rfl⟩⟩

/-- The last method finds the second definition of the name that it reuses, and what is output under the name is the first,
which reuses another method itself. -/
theorem shadowedItems_not_refers :
    ¬∀ r ∈ (shadowedItems.resolve {}).1.requests, ∀ target, r.reuses = some target →
      (shadowedItems.resolve {}).1.Refers r target := by
  intro hall
  obtain ⟨r, hr, hreuse⟩ : ∃ r ∈ (shadowedItems.resolve {}).1.requests, r.reuses = some "getItem" := by decide
  obtain ⟨q, hq, hname, hnone⟩ := (hall r hr "getItem" hreuse).exists_mem
  have hreuses : ∀ q ∈ (shadowedItems.resolve {}).1.requests, q.name = "getItem" → q.reuses = some "items" := by decide
  cases hnone.symm.trans (hreuses q hq hname)

end DataRequests
