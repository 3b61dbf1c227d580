import DataRequests.Proofs.Methods
import DataRequests.Proofs.Scan
import DataRequests.Proofs.Validation

/-!
# What a reuse refers to

The pool of an interface is filled from the methods that validated, the methods that failed and the methods that reuse another.
Every request that reuses no other is counted in it exactly once, so that a lookup is decided by the methods which the name
may mean (`Interface.reusable`) and by nothing else: `Interface.lookup_pool`.
-/

namespace DataRequests

/-- What comes of a method that is resolved on its own: a validated spec, or what is wrong with it. -/
def Method.standalone (m : Method) (d : Defaults) : Except (List Fault) RequestSpec :=
  match m.prepare d with
  | .error faults => .error faults
  | .ok spec => spec.validate

/-- The spec of a method on its own is that of its declaration, and valid. -/
theorem Method.standalone_eq_ok_iff (m : Method) (d : Defaults) (r : RequestSpec) :
    m.standalone d = .ok r ↔ m.prepare d = .ok r ∧ r.Valid := by
  unfold Method.standalone
  split
  · rename_i h
    simp [h]
  · rename_i spec h
    rw [RequestSpec.validate_eq_ok_iff, h, Except.ok.injEq]

/-- A method provides a handle when it reuses no other and resolves on its own. -/
theorem Entry.handle?_eq (d : Defaults) (e : Entry) :
    e.handle? d = if e.method.reuseTarget.isNone then (e.method.standalone d).toOption else none := by
  unfold Entry.handle? Method.standalone
  cases h : e.method.prepare d with
  | error faults => simp [Except.toOption]
  | ok spec => rw [← (Method.scan_name_reuses ((Method.prepare_eq_ok_iff _ _ _).mp h).1).2]

namespace Pool

/-- A lookup among several methods that provide or fail is ambiguous. -/
theorem lookup_of_two_le {p : Pool} {method target : String}
    (h : 2 ≤ (p.candidates method target).length + p.failures method target) :
    p.lookup method target =
      .error (.ambiguousReuse target ((p.candidates method target).length + p.failures method target)) := by
  unfold lookup
  split
  · rename_i h1 h2
    simp [h1, h2] at h
  · rename_i h1 h2
    simp [h1, h2] at h
  · rename_i h1 h2
    simp [h1, h2] at h
  · rfl

end Pool

namespace Interface

/-- The methods that a reuse by `method` may mean by `target`: the requests of that name that reuse no other. A method never
means itself. -/
def reusable (i : Interface) (method target : String) : List Method :=
  i.declaredRequests.filter fun s => s.reuseTarget.isNone && (s.name = target && s.name != method)

/-- What the first request of a name that reuses another method reuses. -/
def chained? (i : Interface) (target : String) : Option String :=
  (i.declaredRequests.find? fun s => s.name = target && s.reuseTarget.isSome).bind (·.reuseTarget)

theorem mem_reusable {i : Interface} {method target : String} {s : Method} :
    s ∈ i.reusable method target ↔
      s ∈ i.declaredRequests ∧ s.reuseTarget = none ∧ s.name = target ∧ target ≠ method := by
  simp only [reusable, List.mem_filter, Bool.and_eq_true, Option.isNone_iff_eq_none, decide_eq_true_eq, bne_iff_ne]
  constructor
  · rintro ⟨hs, hreuse, rfl, hne⟩
    exact ⟨hs, hreuse, rfl, hne⟩
  · rintro ⟨hs, hreuse, rfl, hne⟩
    exact ⟨hs, hreuse, rfl, hne⟩

variable (i : Interface) (outer : Defaults) (method target : String)

/-- The candidates of a lookup are the handles of the methods that it may mean. -/
theorem candidates_pool :
    (i.pool outer).candidates method target =
      (i.reusable method target).filterMap fun s => (s.standalone (i.defaults outer)).toOption := by
  have hhandles : (i.pool outer).handles =
      (i.declaredRequests.filter (·.reuseTarget.isNone)).filterMap
        fun s => (s.standalone (i.defaults outer)).toOption := by
    rw [← map_method_requests, List.filterMap_filter, List.filterMap_map]
    exact List.filterMap_congr fun e _ => e.handle?_eq _
  have hagree : ∀ (s : Method) (h : RequestSpec), (s.standalone (i.defaults outer)).toOption = some h →
      (decide (h.bindingName = target) && h.name != method) = (decide (s.name = target) && s.name != method) := by
    intro s h hs
    cases hok : s.standalone (i.defaults outer) with
    | error faults => simp [hok, Except.toOption] at hs
    | ok r =>
      obtain rfl : r = h := by simpa [hok, Except.toOption] using hs
      have hprepare := ((s.standalone_eq_ok_iff _ _).mp hok).1
      rw [(Method.prepared_of_prepare hprepare).binding,
        (Method.scan_name_reuses ((s.prepare_eq_ok_iff _ _).mp hprepare).1).1]
  rw [Pool.candidates, hhandles, filter_filterMap_of_agree hagree, List.filter_filter, reusable]
  congr
  funext s
  exact Bool.and_comm _ _

/-- The failures of a lookup are the methods that it may mean and that do not resolve on their own. -/
theorem failures_pool :
    (i.pool outer).failures method target =
      (i.reusable method target).countP fun s => (s.standalone (i.defaults outer)).toOption.isNone := by
  have hfailed : (i.pool outer).failed =
      ((i.declaredRequests.filter (·.reuseTarget.isNone)).filter
        fun s => (s.standalone (i.defaults outer)).toOption.isNone).map (·.name) := by
    rw [← map_method_requests, List.filter_filter, List.filter_map, List.map_map]
    refine congrArg _ (List.filter_congr fun e _ => ?_)
    rw [Entry.hasFailed, Entry.handle?_eq, Function.comp_apply]
    cases e.method.reuseTarget <;> simp
  rw [Pool.failures, hfailed, List.countP_map, List.countP_filter, List.countP_filter, reusable, List.countP_filter]
  refine List.countP_congr fun s _ => ?_
  simp only [Function.comp_apply, Bool.and_eq_true]
  tauto

/-- The reuse that a lookup finds in the place of a handle is that of the first request of the name with one. -/
theorem chainedTarget?_pool : (i.pool outer).chainedTarget? target = i.chained? target := by
  have hchained : (i.pool outer).chained = i.declaredRequests.filterMap fun s => s.reuseTarget.map (s.name, ·) := by
    rw [← map_method_requests, List.filterMap_map]
    rfl
  rw [Pool.chainedTarget?, hchained, List.find?_filterMap, chained?, Option.map_bind]
  have hfind : (fun s : Method => (s.reuseTarget.map (s.name, ·)).any fun x => decide (x.1 = target)) =
      fun s => decide (s.name = target) && s.reuseTarget.isSome := by
    funext s
    cases s.reuseTarget <;> simp
  rw [hfind]
  refine congrArg _ (funext fun s => ?_)
  rw [Function.comp_apply]
  cases s.reuseTarget <;> rfl

/-- A lookup is decided by the methods that it may mean: it fails when there is none or more than one, and otherwise gives the
handle of the one there is, if that method resolves. -/
theorem lookup_pool :
    (i.pool outer).lookup method target =
      match i.reusable method target with
      | [] => .error (.danglingReuse target (i.chained? target))
      | [s] =>
        match s.standalone (i.defaults outer) with
        | .ok handle => .ok handle
        | .error _ => .error (.unresolvedReuse target)
      | several => .error (.ambiguousReuse target several.length) := by
  have hcandidates := i.candidates_pool outer method target
  have hfailures := i.failures_pool outer method target
  split
  · rename_i h
    rw [h] at hcandidates hfailures
    simp [Pool.lookup, hcandidates, hfailures, chainedTarget?_pool]
  · rename_i s h
    rw [h] at hcandidates hfailures
    cases hs : s.standalone (i.defaults outer) <;>
      simp [Pool.lookup, hcandidates, hfailures, hs, Except.toOption]
  · rename_i several hnil hone
    -- each of the methods provides a handle or fails, so that the two counts come to all of them
    have htotal : ((i.pool outer).candidates method target).length + (i.pool outer).failures method target =
        (i.reusable method target).length := by
      rw [hcandidates, hfailures, List.length_filterMap_eq_countP,
        List.length_eq_countP_add_countP fun s => (s.standalone (i.defaults outer)).toOption.isSome]
      refine congrArg _ (List.countP_congr fun s _ => ?_)
      simp
    have htwo : 2 ≤ (i.reusable method target).length := by
      match h : i.reusable method target with
      | [] => exact absurd h hnil
      | [s] => exact absurd h (hone s)
      | _ :: _ :: _ => simp
    rw [Pool.lookup_of_two_le (htotal ▸ htwo), htotal]

variable {i outer method target}

/-- A lookup gives a handle exactly when there is a single method that it may mean and that method resolves to the handle. -/
theorem lookup_pool_eq_ok_iff {handle : RequestSpec} :
    (i.pool outer).lookup method target = .ok handle ↔
      ∃ s, i.reusable method target = [s] ∧ s.standalone (i.defaults outer) = .ok handle := by
  rw [lookup_pool]
  split
  · rename_i h
    simp [h]
  · rename_i s h
    cases hs : s.standalone (i.defaults outer) <;> simp [h, hs]
  · rename_i several hnil hone
    exact iff_of_false nofun fun ⟨s, hs, _⟩ => hone s hs

/-- The handle that a lookup gives is a request of the name that reuses no other, and it has been validated on its own. -/
theorem handle_of_lookup {handle : RequestSpec} (h : (i.pool outer).lookup method target = .ok handle) :
    handle.name = target ∧ handle.bindingName = target ∧ handle.reuses = none ∧ target ≠ method ∧ handle.Prepared ∧
      handle.Valid := by
  obtain ⟨s, hone, hs⟩ := lookup_pool_eq_ok_iff.mp h
  obtain ⟨-, hreuse, hname, hne⟩ := mem_reusable.mp (hone ▸ List.mem_singleton_self s)
  obtain ⟨hprepare, hvalid⟩ := (s.standalone_eq_ok_iff _ _).mp hs
  have hprepared := Method.prepared_of_prepare hprepare
  obtain ⟨hsname, hsreuses⟩ := Method.scan_name_reuses ((s.prepare_eq_ok_iff _ _).mp hprepare).1
  exact ⟨hsname.trans hname, hprepared.binding.trans (hsname.trans hname), hsreuses.trans hreuse, hne, hprepared, hvalid⟩

end Interface

end DataRequests
