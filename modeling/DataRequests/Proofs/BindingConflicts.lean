import DataRequests.Proofs.Provenance
import DataRequests.Proofs.ReuseFaults

/-!
# Sources beside a handle from the constructor

A request that uses a handle from the constructor may declare sources as targets only. The fault that it declares others is found on
the merged spec, in which the handle comes through the constructor when the reused method says so and also when the request itself does
(`reportsUntargeted_iff`). In the second case alone the fault names a handle that is built.
-/

namespace DataRequests

/-- The method declares a source, and its sources are no targets. -/
def Method.DeclaresUntargeted (m : Method) : Prop :=
  (∃ a ∈ m.markers, a.source?.isSome = true) ∧ Marker.targets ∉ m.markers

instance (m : Method) : Decidable m.DeclaresUntargeted :=
  inferInstanceAs (Decidable (_ ∧ _))

/-- A method declares a kind exactly when one of its markers declares a source. -/
theorem Method.exists_declares_iff (m : Method) :
    (∃ kind, m.declares kind = true) ↔ ∃ a ∈ m.markers, a.source?.isSome = true := by
  simp only [declares, List.any_eq_true, decide_eq_true_eq, Option.isSome_iff_exists]
  constructor
  · rintro ⟨kind, a, ha, hkind⟩
    exact ⟨a, ha, kind, hkind⟩
  · rintro ⟨a, ha, kind, hkind⟩
    exact ⟨kind, a, ha, hkind⟩

/-- A scanned spec is restricted to targets exactly when a marker of its method says so. -/
theorem Method.targetsOnly_of_scan {m : Method} {d : Defaults} {r : RequestSpec} (h : m.scan d = .ok r) :
    r.targetsOnly = true ↔ Marker.targets ∈ m.markers := by
  obtain ⟨-, -, -, shape, -, rfl⟩ := (m.scan_eq_ok_iff d r).mp h
  exact List.contains_iff_mem

namespace RequestSpec

/-- The check for untargeted sources finds its fault exactly of a reuse that has its handle from the constructor and declares sources that
are no targets, and it names what is reused. -/
theorem mem_untargetedFaults_iff (r : RequestSpec) (target : String) :
    .bindingConflict (.untargetedSources target) ∈ r.untargetedFaults ↔
      r.reuses = some target ∧ r.boundInConstructor = true ∧ r.sources.declaresAny = true ∧ r.targetsOnly = false := by
  unfold untargetedFaults
  split
  · rename_i hnone
    simp [hnone]
  · rename_i reference hsome
    rw [hsome, Option.some_inj]
    split
    · rename_i hcond
      simp only [Bool.and_eq_true, Bool.not_eq_true'] at hcond
      obtain ⟨⟨hbound, hdeclares⟩, htargets⟩ := hcond
      simp [hbound, hdeclares, htargets, eq_comm]
    · rename_i hcond
      simp only [Bool.and_eq_true, Bool.not_eq_true', and_assoc] at hcond
      simp [hcond]

/-- No other check finds this fault. -/
theorem untargeted_mem_faults_iff (r : RequestSpec) (target : String) :
    .bindingConflict (.untargetedSources target) ∈ r.faults ↔
      r.reuses = some target ∧ r.boundInConstructor = true ∧ r.sources.declaresAny = true ∧ r.targetsOnly = false := by
  have hunavailable : .bindingConflict (.untargetedSources target) ∉ r.unavailableFaults := by
    unfold unavailableFaults
    split <;> simp
  rw [← mem_untargetedFaults_iff]
  simp only [faults, List.mem_append, hunavailable, or_false]
  constructor
  · rintro (((((h | h) | h) | h) | h) | h)
    · cases eq_of_mem_ite_singleton h
    · cases eq_of_mem_ite_singleton h
    · exact h
    · cases eq_of_mem_ite_singleton h
    · cases eq_of_mem_ite_singleton h
    · cases eq_of_mem_ite_singleton h
  · intro h
    exact Or.inl (Or.inl (Or.inl (Or.inr h)))

/-- Of a reuse that has found a handle of its data type, the fault of an untargeted source is found exactly when one of the two has its
handle from the constructor and the request declares sources that are no targets. -/
theorem untargeted_mem_faults_merge_iff (own reference : RequestSpec) (target : String) :
    .bindingConflict (.untargetedSources target) ∈ (own.merge reference).faults ↔
      own.reuses = some target ∧ (reference.boundInConstructor = true ∨ own.boundInConstructor = true) ∧
        own.sources.declaresAny = true ∧ own.targetsOnly = false := by
  have hdeclares : (own.mergedSources reference).declaresAny = own.sources.declaresAny :=
    SourceConfigs.declaresAny_congr (isDeclared_mergedSources own reference)
  rw [untargeted_mem_faults_iff, merge_eq]
  simp only [hdeclares, Bool.or_eq_true, or_comm]

end RequestSpec

namespace Interface

/-- An interface reports against a method that it declares sources beside the handle of `target`, which comes through the
constructor. -/
def ReportsUntargeted (i : Interface) (outer : Defaults) (method target : String) : Prop :=
  ⟨i.name, method, .bindingConflict (.untargetedSources target)⟩ ∈ (i.resolve outer).2

instance (i : Interface) (outer : Defaults) (method target : String) : Decidable (i.ReportsUntargeted outer method target) :=
  inferInstanceAs (Decidable (_ ∈ _))

variable {i : Interface} {outer : Defaults} {m : Method}

/-- What is reported against a first definition that is a request, repetitions of its name apart, is what is wrong with it. -/
theorem mem_errors_iff (hfirst : i.first? m.name = some m) (hrequest : m.isRequest = true) {fault : Fault}
    (hfault : fault ≠ .duplicateMethod) :
    ⟨i.name, m.name, fault⟩ ∈ (i.resolve outer).2 ↔ fault ∈ i.requestFaults outer m := by
  have hfilter : ⟨i.name, m.name, fault⟩ ∈ (i.resolve outer).2 ↔
      ⟨i.name, m.name, fault⟩ ∈ (i.allErrors outer).filter (·.method = m.name) := by
    simp [resolve]
  have hrepeat : ⟨i.name, m.name, fault⟩ ∉ i.repeatErrors.filter (·.method = m.name) := by
    intro h
    exact hfault (fault_of_mem_repeatErrors (List.mem_of_mem_filter h))
  rw [hfilter, filter_allErrors _ _ hfirst hrequest, List.mem_append, or_iff_right hrepeat, errors]
  simp

/-- When the lookup of a reuse gives a handle, the fault of an untargeted source is one of the merged spec. -/
theorem untargeted_mem_requestFaults_iff {own handle : RequestSpec} {target : String}
    (hscan : m.scan (i.defaults outer) = .ok own) (hreuse : Marker.reuse target ∈ m.markers)
    (hlookup : (i.pool outer).lookup m.name target = .ok handle) :
    .bindingConflict (.untargetedSources target) ∈ i.requestFaults outer m ↔
      handle.dataType = own.dataType ∧ .bindingConflict (.untargetedSources target) ∈ (own.merge handle).faults := by
  obtain ⟨hprepare, hname, hreuses⟩ := prepare_of_reuse hscan hreuse
  by_cases htype : handle.dataType = own.dataType
  · have hresolve : own.resolveReuse (i.pool outer) = .ok (own.merge handle) := by
      simp [RequestSpec.resolveReuse, hreuses, hname, hlookup, htype]
    have hfinish : own.finish (i.pool outer) =
        if (own.merge handle).faults.isEmpty then .ok (own.merge handle) else .error (own.merge handle).faults := by
      rw [RequestSpec.finish, hresolve]
      rfl
    rw [and_iff_right htype]
    split at hfinish
    · rename_i hnil
      rw [requestFaults_eq_nil hprepare hfinish, List.isEmpty_iff.mp hnil]
    · rw [requestFaults_of_finish hprepare hfinish]
  · have hfinish : own.finish (i.pool outer) = .error [.reuseTypeMismatch target handle.dataType own.dataType] := by
      simp [RequestSpec.finish, RequestSpec.resolveReuse, hreuses, hname, hlookup, htype]
    rw [requestFaults_of_finish hprepare hfinish]
    simp [htype]

end Interface

/-- When the lookup of a reuse has found the handle of a method, untargeted sources are reported exactly when the data types are the same,
the request declares sources that are no targets, and the found method or the request itself is bound in the constructor. So what is
reported tells of the found method whether it is bound, unless the request is bound itself and the found method is not. -/
theorem reportsUntargeted_iff {i : Interface} {outer : Defaults} {m : Method} {own handle : RequestSpec} {target : String}
    (hfirst : i.first? m.name = some m) (hrequest : m.isRequest = true) (hscan : m.scan (i.defaults outer) = .ok own)
    (hreuse : Marker.reuse target ∈ m.markers) (hlookup : (i.pool outer).lookup m.name target = .ok handle) :
    ∃ s, i.reusable m.name target = [s] ∧
      (i.ReportsUntargeted outer m.name target ↔
        handle.dataType = own.dataType ∧ (s.isBound = true ∨ m.isBound = true) ∧ m.DeclaresUntargeted) ∧
      (handle.dataType = own.dataType →
        ((i.ReportsUntargeted outer m.name target ↔ s.isBound = true ∧ m.DeclaresUntargeted) ↔
          ¬(s.isBound = false ∧ m.isBound = true ∧ m.DeclaresUntargeted))) := by
  obtain ⟨s, hone, hhandle⟩ := Interface.lookup_pool_eq_ok_iff.mp hlookup
  obtain ⟨hprepare, -, hreuses⟩ := Interface.prepare_of_reuse hscan hreuse
  obtain ⟨-, -, hown⟩ := Method.markers_of_prepare hprepare
  obtain ⟨-, -, hreference⟩ := Method.markers_of_prepare ((s.standalone_eq_ok_iff _ _).mp hhandle).1
  have hdeclares : own.sources.declaresAny = true ∧ own.targetsOnly = false ↔ m.DeclaresUntargeted := by
    rw [Method.declaresAny_of_prepare hprepare, m.exists_declares_iff, Bool.eq_false_iff, Ne, Method.targetsOnly_of_scan hscan]
    rfl
  have hfault : Fault.bindingConflict (.untargetedSources target) ≠ .duplicateMethod := nofun
  have hreports : i.ReportsUntargeted outer m.name target ↔
      handle.dataType = own.dataType ∧ (s.isBound = true ∨ m.isBound = true) ∧ m.DeclaresUntargeted := by
    rw [Interface.ReportsUntargeted, Interface.mem_errors_iff hfirst hrequest hfault,
      Interface.untargeted_mem_requestFaults_iff hscan hreuse hlookup, RequestSpec.untargeted_mem_faults_merge_iff,
      and_iff_right hreuses, hown, hreference, hdeclares]
  refine ⟨s, hone, hreports, fun htype => ?_⟩
  rw [hreports, and_iff_right htype]
  cases s.isBound <;> cases m.isBound <;> by_cases h : m.DeclaresUntargeted <;> simp [h]

/-- A controller reference that is bound in the constructor by its own marker, reuses a request and declares a source that is no
target. -/
def itemsHandle : Method where
  name := "itemsHandle"
  returnType := .wrapping .controller "Item"
  markers := [.controllerReference { inConstructor := true }, .reuse "items", .network {}]

/-- A request that reuses a handle from the constructor and declares a source that is no target. -/
def getNote : Method where
  name := "getNote"
  returnType := .wrapping .request "Note"
  markers := [.reuse "notes", .memory {}]

/-- The two with what they reuse. -/
def besideItems : Interface where
  name := "Items"
  methods :=
    [{ name := "items", returnType := .wrapping .request "Item", markers := [.network {}] }, itemsHandle,
     { name := "notes", returnType := .wrapping .controller "Note",
       markers := [.controllerReference { inConstructor := true }] },
     getNote]

/-- The source of the request is reported, since the handle that it reuses comes through the constructor. -/
theorem besideItems_reportsUntargeted : besideItems.ReportsUntargeted {} "getNote" "notes" := by
  obtain ⟨s, hone, hreports, -⟩ :=
    @reportsUntargeted_iff besideItems {} getNote _ _ "notes" rfl rfl rfl List.mem_cons_self rfl
  cases hone
  exact hreports.mpr ⟨rfl, by decide, by decide⟩

/-- The source of the controller reference is reported too, although the handle that it reuses is built. -/
theorem besideItems_not_reportsUntargeted_iff :
    ¬∀ (m s : Method) (own handle : RequestSpec) (target : String), besideItems.first? m.name = some m → m.isRequest = true →
      m.scan (besideItems.defaults {}) = .ok own → Marker.reuse target ∈ m.markers →
      (besideItems.pool {}).lookup m.name target = .ok handle → handle.dataType = own.dataType →
      besideItems.reusable m.name target = [s] →
      (besideItems.ReportsUntargeted {} m.name target ↔ s.isBound = true ∧ m.DeclaresUntargeted) := by
  intro hall
  have hreports : besideItems.ReportsUntargeted {} "itemsHandle" "items" := by decide
  have hbound := (hall itemsHandle { name := "items", returnType := .wrapping .request "Item", markers := [.network {}] } _ _ "items"
    rfl rfl rfl (by decide) rfl rfl (by decide)).mp hreports
  exact absurd hbound.1 (by decide)

end DataRequests
