import DataRequests.Proofs.Handles
import DataRequests.Proofs.WellFormed

/-!
# Plans agree with the sources

A plan looks at the flags of a request alone: a lookup reads one kind of storage and leaves the other out, a target is whatever
is declared, a handle has whatever is enabled. That nothing is skipped, restricted to nothing or addressed twice by this holds
only of requests that have been resolved (`plans_coherent`).
-/

namespace DataRequests

/-- What an emitter may take for granted about the plans of a request. -/
structure RequestSpec.Coherent (r : RequestSpec) : Prop where
  /-- A lookup reads all storage that is enabled, in construction order, and there is some. -/
  lookup : r.returnKind = .syncLookup →
    r.syncReadOrder ≠ [] ∧ r.syncReadOrder = r.sources.enabledKinds.filter (· ≠ .network)
  /-- No other request reads storage itself. -/
  other : r.returnKind ≠ .syncLookup → r.syncReadOrder = []
  /-- Targets are enabled, and there are some exactly when the request is restricted to them. -/
  targets : r.targetSources.Sublist r.sources.enabledKinds
  restricted : r.targetSources ≠ [] ↔ r.targetsOnly = true
  /-- Parameters go to enabled sources, and to targets only if the request is restricted to them and its handle is built. -/
  requests : ∀ kind ∈ r.requestSources, kind ∈ r.sources.enabledKinds ∧
    (r.targetsOnly = true → r.boundInConstructor = false → kind ∈ r.targetSources)
  /-- A handle is built from what its request declares, and from something. -/
  handle : ∀ kinds, r.handleSources = some kinds → kinds ≠ [] ∧ kinds = r.sources.declaredKinds
  /-- No two enabled kinds go by one name at run time. -/
  runtime : ∀ kind ∈ r.sources.enabledKinds, ∀ kind' ∈ r.sources.enabledKinds, kind ≠ kind' →
    kind.requestTarget ≠ kind'.requestTarget

/-- Two kinds of one name at run time are the two kinds of storage, or the same. -/
theorem SourceKind.requestTarget_eq_iff (kind kind' : SourceKind) :
    kind.requestTarget = kind'.requestTarget ↔
      kind = kind' ∨ kind = .database ∧ kind' = .keyValueStore ∨ kind = .keyValueStore ∧ kind' = .database := by
  cases kind <;> cases kind' <;> decide

namespace SourceConfigs

@[simp]
theorem mem_enabledKinds (s : SourceConfigs) (kind : SourceKind) : kind ∈ s.enabledKinds ↔ s.isEnabled kind = true := by
  simp [enabledKinds]

/-- Kinds that are declared as far as they are enabled are listed in the same order. -/
theorem declaredKinds_sublist {s : SourceConfigs} (h : ∀ kind, s.isDeclared kind = true → s.isEnabled kind = true) :
    s.declaredKinds.Sublist s.enabledKinds :=
  List.monotone_filter_right _ h

/-- There are declared kinds exactly when any is declared. -/
theorem declaredKinds_ne_nil_iff (s : SourceConfigs) : s.declaredKinds ≠ [] ↔ ∃ kind, s.isDeclared kind = true := by
  simp [List.eq_nil_iff_forall_not_mem]

end SourceConfigs

namespace RequestSpec

/-- A lookup reads memory and then the kind of storage that is enabled, which are all enabled kinds but the network. -/
theorem syncReadOrder_eq {r : RequestSpec} (hlookup : r.returnKind = .syncLookup)
    (hstorage : ¬(r.sources.isEnabled .database = true ∧ r.sources.isEnabled .keyValueStore = true)) :
    r.syncReadOrder = r.sources.enabledKinds.filter (· ≠ .network) := by
  have hstored : r.sources.enabledKinds.filter (· ≠ .network) =
      [SourceKind.memory, .database, .keyValueStore].filter r.sources.isEnabled := by
    rw [SourceConfigs.enabledKinds, List.filter_comm]
    rfl
  have horder : r.syncReadOrder = (if r.sources.isEnabled .memory then [.memory] else []) ++
      (if r.sources.isEnabled .database then [.database]
       else if r.sources.isEnabled .keyValueStore then [.keyValueStore]
       else []) := if_pos hlookup
  rw [hstored, horder]
  -- only where both kinds of storage are enabled would the second one be skipped
  cases hdatabase : r.sources.isEnabled .database with
  | false => cases hmemory : r.sources.isEnabled .memory <;> cases hstore : r.sources.isEnabled .keyValueStore <;>
      simp [hdatabase, hmemory, hstore]
  | true =>
    have hstore : r.sources.isEnabled .keyValueStore = false := Bool.eq_false_iff.mpr fun h => hstorage ⟨hdatabase, h⟩
    cases hmemory : r.sources.isEnabled .memory <;> simp [hdatabase, hmemory, hstore]

/-- A kind to which a request attaches parameters is enabled, and it is declared if the request is restricted to its targets and
its handle is built. -/
theorem of_mem_requestSources {r : RequestSpec} {kind : SourceKind} (h : kind ∈ r.requestSources) :
    r.sources.isEnabled kind = true ∧
      (r.targetsOnly = true → r.boundInConstructor = false → r.sources.isDeclared kind = true) := by
  unfold requestSources at h
  split at h
  · obtain ⟨henabled, hallowed⟩ := Bool.and_eq_true_iff.mp (List.mem_filter.mp h).2
    refine ⟨henabled, fun htargets hbuilt => ?_⟩
    simpa [htargets, hbuilt] using hallowed
  · cases h

variable {i : Interface} {outer : Defaults} {r : RequestSpec}

/-- The handle of a request in the output is built from what the request declares: without a reuse nothing else is enabled, and
a request without a source has no handle of its own. -/
theorem handleSources_of_mem_requests (hr : r ∈ (i.spec outer).requests) (hwell : r.WellFormed) {kinds : List SourceKind}
    (h : r.handleSources = some kinds) : kinds ≠ [] ∧ kinds = r.sources.declaredKinds := by
  unfold handleSources at h
  split at h
  · rename_i howns
    cases h
    simp only [ownsHandle, Bool.and_eq_true, Option.isNone_iff_eq_none, Bool.not_eq_true'] at howns
    obtain ⟨⟨⟨hnone, hbuilt⟩, -⟩, -⟩ := howns
    have hsame : r.sources.enabledKinds = r.sources.declaredKinds := by
      rw [SourceConfigs.enabledKinds, (Interface.prepared_of_mem_requests hr hnone).enabled]
      rfl
    refine ⟨?_, hsame⟩
    rw [hsame, SourceConfigs.declaredKinds_ne_nil_iff]
    rcases hwell.intent with hdeclared | hreuse | ⟨-, hbound⟩
    · exact hdeclared
    · simp [hnone] at hreuse
    · cases hbuilt.symm.trans hbound
  · cases h

/-- The plans of a request in the output are coherent. -/
theorem coherent_of_mem_requests (hr : r ∈ (i.spec outer).requests) : r.Coherent := by
  obtain ⟨own, hown, hresolve, hvalid⟩ := Interface.origin_of_mem_requests hr
  have hwell : r.WellFormed := wellFormed_of_resolveReuse hown hresolve hvalid
  have htargets : r.targetsOnly = true → r.targetSources = r.sources.declaredKinds := fun h => if_pos h
  constructor
  case lookup =>
    intro hlookup
    have horder := syncReadOrder_eq hlookup hwell.storage
    refine ⟨?_, horder⟩
    rw [horder]
    -- a lookup has a kind that is enabled and is not the network
    have hread : ∀ kind : SourceKind, kind ≠ .network → r.sources.isEnabled kind = true →
        r.sources.enabledKinds.filter (· ≠ .network) ≠ [] := fun kind hkind henabled =>
      List.ne_nil_of_mem (List.mem_filter.mpr ⟨(r.sources.mem_enabledKinds kind).mpr henabled, decide_eq_true hkind⟩)
    rcases hwell.lookup hlookup with hmemory | hdatabase | hstore
    · exact hread .memory nofun hmemory
    · exact hread .database nofun hdatabase
    · exact hread .keyValueStore nofun hstore
  case other => exact fun hother => if_neg hother
  case targets =>
    unfold targetSources
    split
    · exact SourceConfigs.declaredKinds_sublist hwell.declared
    · exact List.nil_sublist _
  case restricted =>
    constructor
    · intro hne
      by_contra hfree
      exact hne (if_neg hfree)
    · intro h
      rw [htargets h, SourceConfigs.declaredKinds_ne_nil_iff]
      exact (hwell.targets h).1
  case requests =>
    intro kind hkind
    obtain ⟨henabled, hdeclared⟩ := of_mem_requestSources hkind
    refine ⟨(r.sources.mem_enabledKinds kind).mpr henabled, fun h hbuilt => ?_⟩
    rw [htargets h, SourceConfigs.mem_declaredKinds]
    exact hdeclared h hbuilt
  case handle => exact fun _ hkinds => handleSources_of_mem_requests hr hwell hkinds
  case runtime =>
    intro kind hkind kind' hkind' hne hname
    rw [SourceConfigs.mem_enabledKinds] at hkind hkind'
    rcases (SourceKind.requestTarget_eq_iff kind kind').mp hname with rfl | ⟨rfl, rfl⟩ | ⟨rfl, rfl⟩
    · exact hne rfl
    · exact hwell.storage ⟨hkind, hkind'⟩
    · exact hwell.storage ⟨hkind', hkind⟩

end RequestSpec

/-- The plans of every request in the resolved methods of an interface are coherent, whatever the defaults and whatever is
reported. -/
theorem plans_coherent (i : Interface) (outer : Defaults) : ∀ r ∈ (i.resolve outer).1.requests, r.Coherent :=
  fun _ hr => RequestSpec.coherent_of_mem_requests hr

/-- A lookup with two kinds, and a request that reuses it and is restricted to one of them. -/
def readItems : Interface where
  name := "Items"
  methods :=
    [{ name := "items", returnType := { name := "Item" }, markers := [.database {}, .memory {}, .network {}] },
     { name := "fetchItems", returnType := .wrapping .request "Item", markers := [.reuse "items", .targets, .network {}] }]

/-- The lookup reads memory before the database, and the request goes to the network alone. -/
theorem readItems_coherent :
    (∃ r ∈ (readItems.resolve {}).1.requests, r.syncReadOrder = [.memory, .database] ∧ r.Coherent) ∧
      ∃ r ∈ (readItems.resolve {}).1.requests, r.targetSources = [.network] ∧ r.requestSources = [.network] ∧ r.Coherent := by
  obtain ⟨⟨r, hr, horder⟩, r', hr', htargets, hrequests⟩ :
      (∃ r ∈ (readItems.resolve {}).1.requests, r.syncReadOrder = [.memory, .database]) ∧
        ∃ r ∈ (readItems.resolve {}).1.requests, r.targetSources = [.network] ∧ r.requestSources = [.network] := by
    decide
  exact ⟨⟨r, hr, horder, plans_coherent readItems {} r hr⟩, r', hr', htargets, hrequests, plans_coherent readItems {} r' hr'⟩

end DataRequests
