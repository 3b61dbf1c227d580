import DataRequests.Proofs.Outcome

/-!
# What is reported about a reuse

Four faults say that a reuse leads to no handle, or to one of another data type (`Fault.isAboutReuse`). Which of them is
reported against a request is decided by the methods that its reuse may mean, and it is at most one
(`reuseErrors_by_reusable`).
-/

namespace DataRequests

/-- Whether a fault says that a reuse leads to no handle, or to one of another data type. -/
def Fault.isAboutReuse : Fault → Bool
  | .danglingReuse .. | .ambiguousReuse .. | .reuseTypeMismatch .. | .unresolvedReuse .. => true
  | _ => false

/-- A lookup that fails says so of the reuse. -/
theorem Pool.isAboutReuse_of_lookup {p : Pool} {method target : String} {fault : Fault}
    (h : p.lookup method target = .error fault) : fault.isAboutReuse = true := by
  unfold lookup at h
  split at h <;> cases h <;> rfl

namespace RequestSpec

/-- Resolving the reuse fails with a fault about the reuse. -/
theorem isAboutReuse_of_resolveReuse {own : RequestSpec} {pool : Pool} {fault : Fault}
    (h : own.resolveReuse pool = .error fault) : fault.isAboutReuse = true := by
  unfold resolveReuse at h
  split at h
  · cases h
  · split at h
    · rename_i hlookup
      cases h
      exact Pool.isAboutReuse_of_lookup hlookup
    · split at h <;> cases h
      rfl

/-- Validation says nothing about where a reuse leads. -/
theorem isAboutReuse_of_mem_faults {r : RequestSpec} {fault : Fault} (h : fault ∈ r.faults) :
    fault.isAboutReuse = false := by
  have hvalidation := isOfValidation_of_mem_faults h
  cases fault <;> first | rfl | cases hvalidation

end RequestSpec

namespace Interface

/-- The errors that an interface reports about the reuse of the methods of a name. -/
def reuseErrors (i : Interface) (outer : Defaults) (name : String) : List ResolutionError :=
  (i.resolve outer).2.filter fun e => e.method = name && e.fault.isAboutReuse

variable {i : Interface} {outer : Defaults} {m : Method}

/-- What is wrong with a prepared request is what keeps it from being finished. -/
theorem requestFaults_of_finish {own : RequestSpec} {faults : List Fault}
    (hprepare : m.prepare (i.defaults outer) = .ok own) (h : own.finish (i.pool outer) = .error faults) :
    i.requestFaults outer m = faults := by
  simp [requestFaults, Entry.scanFaults, Entry.finishFaults, Entry.outcome?, hprepare, h]

/-- Nothing is wrong with a prepared request that is finished. -/
theorem requestFaults_eq_nil {own r : RequestSpec} (hprepare : m.prepare (i.defaults outer) = .ok own)
    (h : own.finish (i.pool outer) = .ok r) : i.requestFaults outer m = [] := by
  simp [requestFaults, Entry.scanFaults, Entry.finishFaults, Entry.outcome?, hprepare, h]

/-- Of the faults of a prepared request, the one about its reuse is that of resolving the reuse. -/
theorem filter_requestFaults {own : RequestSpec} (hprepare : m.prepare (i.defaults outer) = .ok own) :
    (i.requestFaults outer m).filter (·.isAboutReuse) =
      match own.resolveReuse (i.pool outer) with
      | .error fault => [fault]
      | .ok _ => [] := by
  cases hreuse : own.resolveReuse (i.pool outer) with
  | error fault =>
    have hfinish : own.finish (i.pool outer) = .error [fault] := by rw [RequestSpec.finish, hreuse]
    rw [requestFaults_of_finish hprepare hfinish]
    simp [RequestSpec.isAboutReuse_of_resolveReuse hreuse]
  | ok r =>
    have hfinish : own.finish (i.pool outer) = if r.faults.isEmpty then .ok r else .error r.faults := by
      rw [RequestSpec.finish, hreuse]
      rfl
    split at hfinish
    · simp [requestFaults_eq_nil hprepare hfinish]
    · rw [requestFaults_of_finish hprepare hfinish]
      exact List.filter_eq_nil_iff.mpr fun fault hfault => by simp [RequestSpec.isAboutReuse_of_mem_faults hfault]

/-- A scanned method that reuses another one is prepared: the reuse is how it finds its sources. -/
theorem prepare_of_reuse {spec : RequestSpec} {target : String} (hscan : m.scan (i.defaults outer) = .ok spec)
    (hreuse : Marker.reuse target ∈ m.markers) :
    m.prepare (i.defaults outer) = .ok spec ∧ spec.name = m.name ∧ spec.reuses = some target := by
  have hkeys := ((m.scan_eq_ok_iff _ _).mp hscan).1
  obtain ⟨hname, hreuses⟩ := Method.scan_name_reuses hscan
  rw [Method.reuseTarget_of_mem hkeys hreuse] at hreuses
  have hintent : spec.intentFault? = none := by simp [RequestSpec.intentFault?_eq_none_iff, hreuses]
  exact ⟨(m.prepare_eq_ok_iff _ _).mpr ⟨hscan, hintent⟩, hname, hreuses⟩

/-- What is reported about the reuse of a prepared request is what resolving its reuse in the pool gives. -/
theorem reuseErrors_eq {own : RequestSpec} (hfirst : i.first? m.name = some m) (hrequest : m.isRequest = true)
    (hprepare : m.prepare (i.defaults outer) = .ok own) :
    i.reuseErrors outer m.name =
      match own.resolveReuse (i.pool outer) with
      | .error fault => [⟨i.name, m.name, fault⟩]
      | .ok _ => [] := by
  have hrepeated : (i.repeatErrors.filter (·.method = m.name)).filter (·.fault.isAboutReuse) = [] := by
    refine List.filter_eq_nil_iff.mpr fun e he => ?_
    simp [fault_of_mem_repeatErrors (List.mem_of_mem_filter he), Fault.isAboutReuse]
  have herrors : i.reuseErrors outer m.name =
      ((i.allErrors outer).filter (·.method = m.name)).filter (·.fault.isAboutReuse) := by
    rw [List.filter_filter]
    exact List.filter_congr fun e _ => Bool.and_comm _ _
  have hmap : (i.errors m.name (i.requestFaults outer m)).filter (·.fault.isAboutReuse) =
      i.errors m.name ((i.requestFaults outer m).filter (·.isAboutReuse)) := by
    rw [errors, List.filter_map]
    rfl
  rw [herrors, filter_allErrors _ _ hfirst hrequest, List.filter_append, hrepeated, hmap, filter_requestFaults hprepare]
  cases own.resolveReuse (i.pool outer) <;> rfl

/-- When the lookup of a reuse fails, the fault of the lookup is reported and no other of the reuse. -/
theorem reuseErrors_of_lookup_error {spec : RequestSpec} {target : String} {fault : Fault}
    (hfirst : i.first? m.name = some m) (hrequest : m.isRequest = true)
    (hscan : m.scan (i.defaults outer) = .ok spec) (hreuse : Marker.reuse target ∈ m.markers)
    (hlookup : (i.pool outer).lookup m.name target = .error fault) :
    i.reuseErrors outer m.name = [⟨i.name, m.name, fault⟩] := by
  obtain ⟨hprepare, hname, hreuses⟩ := prepare_of_reuse hscan hreuse
  have hresolve : spec.resolveReuse (i.pool outer) = .error fault := by
    simp [RequestSpec.resolveReuse, hreuses, hname, hlookup]
  rw [reuseErrors_eq hfirst hrequest hprepare, hresolve]

/-- When the lookup of a reuse gives a handle, the one thing that may be reported of the reuse is another data type. -/
theorem reuseErrors_of_lookup_ok {spec handle : RequestSpec} {target : String}
    (hfirst : i.first? m.name = some m) (hrequest : m.isRequest = true)
    (hscan : m.scan (i.defaults outer) = .ok spec) (hreuse : Marker.reuse target ∈ m.markers)
    (hlookup : (i.pool outer).lookup m.name target = .ok handle) :
    i.reuseErrors outer m.name =
      if handle.dataType = spec.dataType then []
      else [⟨i.name, m.name, .reuseTypeMismatch target handle.dataType spec.dataType⟩] := by
  obtain ⟨hprepare, hname, hreuses⟩ := prepare_of_reuse hscan hreuse
  rw [reuseErrors_eq hfirst hrequest hprepare]
  by_cases htype : handle.dataType = spec.dataType <;>
    simp [RequestSpec.resolveReuse, hreuses, hname, hlookup, htype]

/-- What is reported about the reuse of a request is decided by the methods of the interface that the reuse may mean, wherever
they stand and whether or not their names are repeated: no method is a dangling reuse, several are an ambiguous one, and a
single one is unresolved when it fails on its own and a mismatch when it has another data type. One of these faults is
reported, and none of them when the single method has the same data type. -/
theorem reuseErrors_by_reusable {spec : RequestSpec} {target : String} (hfirst : i.first? m.name = some m)
    (hrequest : m.isRequest = true) (hscan : m.scan (i.defaults outer) = .ok spec)
    (hreuse : Marker.reuse target ∈ m.markers) :
    (i.reusable m.name target = [] →
      i.reuseErrors outer m.name = [⟨i.name, m.name, .danglingReuse target (i.chained? target)⟩]) ∧
    (2 ≤ (i.reusable m.name target).length →
      i.reuseErrors outer m.name =
        [⟨i.name, m.name, .ambiguousReuse target (i.reusable m.name target).length⟩]) ∧
    ∀ s, i.reusable m.name target = [s] →
      (∀ faults, s.standalone (i.defaults outer) = .error faults →
        i.reuseErrors outer m.name = [⟨i.name, m.name, .unresolvedReuse target⟩]) ∧
      ∀ handle, s.standalone (i.defaults outer) = .ok handle →
        i.reuseErrors outer m.name =
          if handle.dataType = spec.dataType then []
          else [⟨i.name, m.name, .reuseTypeMismatch target handle.dataType spec.dataType⟩] := by
  have hlookup := i.lookup_pool outer m.name target
  refine ⟨fun hnone => ?_, fun htwo => ?_, fun s hone => ⟨fun faults hs => ?_, fun handle hs => ?_⟩⟩
  · rw [hnone] at hlookup
    exact reuseErrors_of_lookup_error hfirst hrequest hscan hreuse hlookup
  · refine reuseErrors_of_lookup_error hfirst hrequest hscan hreuse ?_
    rw [hlookup]
    match h : i.reusable m.name target with
    | [] | [_] => simp [h] at htwo
    | _ :: _ :: _ => rfl
  · simp only [hone, hs] at hlookup
    exact reuseErrors_of_lookup_error hfirst hrequest hscan hreuse hlookup
  · simp only [hone, hs] at hlookup
    exact reuseErrors_of_lookup_ok hfirst hrequest hscan hreuse hlookup

end Interface

/-- A method that reuses a name with a later definition, which counts for the lookup like the first. -/
def doubledItems : Interface where
  name := "Items"
  methods :=
    [{ name := "getItem", returnType := .wrapping .request "Item", markers := [.reuse "items"] },
     { name := "items", returnType := .wrapping .request "Item", markers := [.network {}] },
     { name := "items", returnType := .wrapping .request "Item", markers := [.memory {}] }]

/-- The reuse of the doubled name is reported as ambiguous between the two. -/
theorem doubledItems_reuseErrors :
    doubledItems.reuseErrors {} "getItem" = [⟨"Items", "getItem", .ambiguousReuse "items" 2⟩] :=
  (Interface.reuseErrors_by_reusable (i := doubledItems)
    (m := { name := "getItem", returnType := .wrapping .request "Item", markers := [.reuse "items"] })
    rfl rfl rfl (List.mem_singleton_self _)).2.1 (by decide)

end DataRequests
