import DataRequests.Proofs.Handles
import DataRequests.Proofs.Options

/-!
# Delegates of key-value stores

The constructor receives a delegate for every method that declares a key-value store with one. A request may also use a store that it
does not declare, by the handle of the method that it reuses; then the delegate is the one that this other method asks for, and the
request finds it in the same field (`delegate_of_build`).
-/

namespace DataRequests

namespace RequestSpec

/-- A request asks a delegate of the constructor when it declares a store with a delegate. -/
theorem storeDelegate?_eq_some_iff {r : RequestSpec} {s : StoreDelegate} :
    r.storeDelegate? = some s ↔
      r.sources.keyValueStore.declared = true ∧ r.sources.keyValueStore.options.storageFieldName = s.fieldName ∧
        r.sources.keyValueStore.options.delegateType = some s.delegateType := by
  obtain ⟨field, delegate⟩ := s
  unfold storeDelegate?
  cases r.sources.keyValueStore.declared <;> simp [and_comm]

variable {reference : RequestSpec} (own : RequestSpec)

/-- A merge with a handle that is built enables the store exactly when the handle does: it is no default kind. -/
theorem store_enabled_merge (h : reference.boundInConstructor = false) :
    (own.merge reference).sources.keyValueStore.enabled = reference.sources.keyValueStore.enabled := by
  have henabled : (own.mergedSources reference).isEnabled .keyValueStore = reference.sources.isEnabled .keyValueStore := by
    rw [isEnabled_mergedSources, h]
    simp [mergeDefault, SourceKind.isDefault]
  exact henabled

/-- A method that declares no store takes over the options of the store of a handle that is built. -/
theorem store_options_merge (h : reference.boundInConstructor = false)
    (hdeclared : own.sources.keyValueStore.declared = false) :
    (own.merge reference).sources.keyValueStore.options = reference.sources.keyValueStore.options := by
  have hnone : ¬own.sources.isDeclared .keyValueStore = true := Bool.not_eq_true _ ▸ hdeclared
  have hoptions := congrArg SourceOptions.keyValueStore (options_merge_of_built own h)
  exact hoptions.trans (if_neg hnone)

end RequestSpec

namespace Interface

variable {i : Interface} {outer : Defaults} {r handle : RequestSpec} {method target : String}

/-- When no name is repeated, the handle that a lookup finds is output. -/
theorem mem_requests_of_lookup (hrepeat : i.repeatErrors = [])
    (hlookup : (i.pool outer).lookup method target = .ok handle) : handle ∈ (i.spec outer).requests := by
  obtain ⟨s, hone, hs⟩ := lookup_pool_eq_ok_iff.mp hlookup
  obtain ⟨hdeclared, hnone, rfl, -⟩ := mem_reusable.mp (hone ▸ List.mem_singleton_self s)
  obtain ⟨hmem, hrequest⟩ := mem_declaredRequests.mp hdeclared
  have hname : handle.name = s.name := (handle_of_lookup hlookup).1
  refine (i.mem_spec_requests outer handle).mpr ⟨s, ?_, hrequest, (resolved?_eq_standalone hnone).mpr hs⟩
  rw [hname]
  exact first?_of_mem hrepeat hmem

/-- A store that a request uses locally and does not declare is declared by the method that it reuses, and the request has the options
of that store. -/
theorem exists_store_of_inherited {own : RequestSpec} (hown : own.Prepared) (hresolve : own.resolveReuse (i.pool outer) = .ok r)
    (hstore : r.sources.keyValueStore.enabled = true) (hdeclared : r.sources.keyValueStore.declared = false)
    (hlocal : r.boundInConstructor = false) :
    ∃ target handle, (i.pool outer).lookup own.name target = .ok handle ∧ handle.sources.keyValueStore.declared = true ∧
      r.sources.keyValueStore.options = handle.sources.keyValueStore.options := by
  -- before a reuse, what is enabled is what is declared
  have hsame : ∀ {spec : RequestSpec}, spec.Prepared →
      spec.sources.keyValueStore.enabled = spec.sources.keyValueStore.declared :=
    fun hprepared => congrFun hprepared.enabled .keyValueStore
  rcases (own.resolveReuse_eq_ok_iff _ r).mp hresolve with ⟨-, rfl⟩ | ⟨target, handle, -, hlookup, -, rfl⟩
  · rw [hsame hown, hdeclared] at hstore
    cases hstore
  · have hbuilt : handle.boundInConstructor = false := by
      rw [RequestSpec.merge_eq] at hlocal
      exact (Bool.or_eq_false_iff.mp hlocal).2
    have hnone : own.sources.keyValueStore.declared = false := by
      have hkept := congrFun (RequestSpec.isDeclared_mergedSources own handle) .keyValueStore
      exact hkept.symm.trans hdeclared
    have hprepared : handle.Prepared := (handle_of_lookup hlookup).2.2.2.2.1
    refine ⟨target, handle, hlookup, ?_, RequestSpec.store_options_merge own hbuilt hnone⟩
    rw [← hsame hprepared, ← RequestSpec.store_enabled_merge own hbuilt]
    exact hstore

/-- When no name is repeated, some request in the output declares the store that a request uses locally, with the same delegate in the
same field. -/
theorem exists_storeDelegate (hrepeat : i.repeatErrors = []) (hr : r ∈ (i.spec outer).requests)
    (hstore : r.sources.keyValueStore.enabled = true) (hlocal : r.boundInConstructor = false) :
    ∃ delegate, r.sources.keyValueStore.options.delegateType = some delegate ∧
      ∃ q ∈ (i.spec outer).requests,
        q.storeDelegate? = some ⟨r.sources.keyValueStore.options.storageFieldName, delegate⟩ := by
  obtain ⟨own, hown, hresolve, hvalid⟩ := origin_of_mem_requests hr
  obtain ⟨delegate, hdelegate⟩ := Option.isSome_iff_exists.mp (hvalid.delegate hstore hlocal)
  refine ⟨delegate, hdelegate, ?_⟩
  cases hdeclared : r.sources.keyValueStore.declared with
  | true => exact ⟨r, hr, RequestSpec.storeDelegate?_eq_some_iff.mpr ⟨hdeclared, rfl, hdelegate⟩⟩
  | false =>
    obtain ⟨target, handle, hlookup, howns, hoptions⟩ := exists_store_of_inherited hown hresolve hstore hdeclared hlocal
    rw [hoptions] at hdelegate ⊢
    exact ⟨handle, mem_requests_of_lookup hrepeat hlookup,
      RequestSpec.storeDelegate?_eq_some_iff.mpr ⟨howns, rfl, hdelegate⟩⟩

end Interface

/-- In a document that builds, a request that uses a key-value store locally has a delegate for it, whether it declares the store or
reuses a method that does, and the constructor receives this delegate in the field where the request finds it. -/
theorem delegate_of_build {d : Document} {outer : Defaults} {system : ResolvedSystem} {spec : InterfaceSpec} {r : RequestSpec}
    (hbuild : d.build outer = .ok system) (hspec : spec ∈ system.interfaces.values) (hr : r ∈ spec.requests)
    (hstore : r.sources.keyValueStore.enabled = true) (hlocal : r.boundInConstructor = false) :
    ∃ delegate, r.sources.keyValueStore.options.delegateType = some delegate ∧
      ⟨r.sources.keyValueStore.options.storageFieldName, delegate⟩ ∈ spec.constructorShape.storeDelegates := by
  obtain ⟨i, hrepeat, rfl⟩ := Document.exists_unrepeated_of_build hbuild hspec
  obtain ⟨delegate, hdelegate, q, hq, hsome⟩ := Interface.exists_storeDelegate hrepeat hr hstore hlocal
  exact ⟨delegate, hdelegate, List.mem_filterMap.mpr ⟨q, hq, hsome⟩⟩

/-- A request with a store, and two that reuse it: one that declares another kind and inherits the store, and one that declares the store
again and inherits its delegate. -/
def storedItems : Document where
  interfaces :=
    [{ name := "Items"
       methods :=
        [{ name := "items", returnType := .wrapping .request "Item",
           markers := [.network {}, .keyValueStore { delegate := some "ItemDelegate" }] },
         { name := "fetchItem", returnType := .wrapping .request "Item", markers := [.reuse "items", .targets, .network {}] },
         { name := "storedItem", returnType := .wrapping .request "Item",
           markers := [.reuse "items", .targets, .keyValueStore {}] }] }]

/-- The request that only inherits the store has the delegate of the first one, and the constructor receives it. -/
theorem storedItems_delegate :
    ∃ system, storedItems.build {} = .ok system ∧ ∃ spec ∈ system.interfaces.values, ∃ r ∈ spec.requests,
      r.name = "fetchItem" ∧ r.sources.keyValueStore.declared = false ∧
        ∃ delegate, r.sources.keyValueStore.options.delegateType = some delegate ∧
          ⟨r.sources.keyValueStore.options.storageFieldName, delegate⟩ ∈ spec.constructorShape.storeDelegates := by
  obtain ⟨system, hbuild, spec, hspec, r, hr, hname, hdeclared, hstore, hlocal⟩ :
      ∃ system, storedItems.build {} = .ok system ∧ ∃ spec ∈ system.interfaces.values, ∃ r ∈ spec.requests,
        r.name = "fetchItem" ∧ r.sources.keyValueStore.declared = false ∧ r.sources.keyValueStore.enabled = true ∧
          r.boundInConstructor = false := ⟨_, rfl, by decide⟩
  exact ⟨system, hbuild, spec, hspec, r, hr, hname, hdeclared, delegate_of_build hbuild hspec hr hstore hlocal⟩

end DataRequests
