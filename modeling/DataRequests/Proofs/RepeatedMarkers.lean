import DataRequests.Proofs.Accounts
import Mathlib.Data.List.Induction

/-!
# Markers that are given twice

A request with repeated markers is left out, and each repetition is reported (`Marker.repetitions`). The markers of a params provider
are not sorted, so that none of its repetitions is reported: `refusesRepetitions_iff_isRequest` tells the two apart.
-/

namespace DataRequests

/-! ## Repetitions -/

namespace Marker

/-- The markers that stand behind one with the same key, in order. -/
def repetitions (markers : List Marker) : List Marker :=
  (markers.zipIdx.filter fun x => (markers.take x.2).any (·.key = x.1.key)).map (·.1)

/-- One more marker at the end is a repetition when its key is among those seen or those before it. -/
theorem repeats_concat (seen : List (Bool × String)) (markers : List Marker) (a : Marker) :
    repeats seen (markers ++ [a]) =
      repeats seen markers ++ if a.key ∈ seen ∨ a.key ∈ markers.map key then [a] else [] := by
  induction markers generalizing seen with
  | nil => by_cases ha : a.key ∈ seen <;> simp [repeats, ha]
  | cons b rest ih =>
    by_cases hb : b.key ∈ seen
    · have hkeys : a.key ∈ seen ∨ a.key ∈ (b :: rest).map key ↔ a.key ∈ seen ∨ a.key ∈ rest.map key := by
        rw [List.map_cons, List.mem_cons]
        constructor
        · rintro (h | h | h)
          · exact Or.inl h
          · exact Or.inl (h ▸ hb)
          · exact Or.inr h
        · rintro (h | h)
          · exact Or.inl h
          · exact Or.inr (Or.inr h)
      simp only [List.cons_append, repeats, if_pos hb, ih, hkeys]
    · simp only [List.cons_append, repeats, if_neg hb, ih, List.map_cons, List.mem_cons, or_assoc, or_left_comm]

/-- One more marker at the end is a repetition when an earlier one has its key. -/
theorem repetitions_concat (markers : List Marker) (a : Marker) :
    repetitions (markers ++ [a]) = repetitions markers ++ if a.key ∈ markers.map key then [a] else [] := by
  have hearlier : ∀ x ∈ markers.zipIdx, ((markers ++ [a]).take x.2).any (·.key = x.1.key) =
      (markers.take x.2).any (·.key = x.1.key) := by
    intro x hx
    rw [List.take_append_of_le_length (Nat.le_of_lt (List.snd_lt_of_mem_zipIdx hx))]
  have hlast : markers.any (·.key = a.key) = decide (a.key ∈ markers.map key) := by
    rw [Bool.eq_iff_iff]
    simp
  rw [repetitions, List.zipIdx_append, List.filter_append, List.map_append, List.filter_congr hearlier, repetitions]
  by_cases ha : a.key ∈ markers.map key <;> simp [hlast, ha]

/-- The repetitions that sorting finds are the markers behind one with the same key. -/
theorem repeats_eq_repetitions (markers : List Marker) : repeats [] markers = repetitions markers := by
  induction markers using List.reverseRecOn with
  | nil => rfl
  | append_singleton rest a ih => simp only [repeats_concat, repetitions_concat, ih, List.not_mem_nil, false_or]

/-- There are repetitions exactly when the keys are not distinct. -/
theorem repetitions_ne_nil_iff (markers : List Marker) : repetitions markers ≠ [] ↔ ¬(markers.map key).Nodup := by
  rw [← repeats_eq_repetitions, Ne, repeats_eq_nil_iff]
  simp

end Marker

/-- A method with repeated markers is not prepared, and each repetition is a fault. -/
theorem Method.prepare_of_repetitions {m : Method} (d : Defaults) (h : ¬(m.markers.map Marker.key).Nodup) :
    m.prepare d = .error ((Marker.repetitions m.markers).map fun a => .repeatedMarker a.name) := by
  have hcollect : Markers.collect m.markers = .error ((Marker.repetitions m.markers).map fun a => .repeatedMarker a.name) := by
    have hne := (Marker.repetitions_ne_nil_iff m.markers).mpr h
    rw [← Marker.repeats_eq_repetitions] at hne ⊢
    unfold Markers.collect
    split
    · rename_i hnil
      exact absurd hnil hne
    · rfl
  rw [prepare, scan, hcollect]

/-! ## Requests and params providers -/

/-- Whether a fault is that a marker is repeated. -/
def Fault.isRepeatedMarker : Fault → Bool
  | .repeatedMarker _ => true
  | _ => false

namespace Interface

variable (i : Interface) (outer : Defaults) (m : Method)

/-- A first definition is left out, and each repetition of its markers is reported against it. -/
structure RefusesRepetitions : Prop where
  reported : (i.outcome outer m.name).errors.filter (·.fault.isRepeatedMarker) =
    i.errors m.name ((Marker.repetitions m.markers).map fun a => .repeatedMarker a.name)
  requests : (i.outcome outer m.name).requests = []
  providers : (i.outcome outer m.name).providers = []

variable {m}

/-- The repeated markers that are reported against a first definition are among what is wrong with it. -/
theorem filter_isRepeatedMarker (hfirst : i.first? m.name = some m) :
    (i.outcome outer m.name).errors.filter (·.fault.isRepeatedMarker) =
      i.errors m.name ((i.methodFaults outer m).filter (·.isRepeatedMarker)) := by
  have hnone : (i.repeatErrors.filter (·.method = m.name)).filter (·.fault.isRepeatedMarker) = [] := by
    apply List.filter_eq_nil_iff.mpr
    intro e he
    rw [fault_of_mem_repeatErrors (List.mem_filter.mp he).1]
    simp [Fault.isRepeatedMarker]
  rw [outcome_eq, hfirst]
  simp only [List.filter_append, hnone, List.nil_append, Option.map_some, Option.getD_some, errors, List.filter_map]
  rfl

/-- A request with repeated markers is refused, and nothing else is wrong with it than its repetitions. -/
theorem methodFaults_of_repetitions (hrequest : m.isRequest = true) (h : ¬(m.markers.map Marker.key).Nodup) :
    i.methodFaults outer m = (Marker.repetitions m.markers).map fun a => .repeatedMarker a.name := by
  simp [methodFaults, requestFaults, Entry.scanFaults, Entry.finishFaults, Entry.outcome?, hrequest,
    Method.prepare_of_repetitions _ h]

/-- Nothing that is wrong with a params provider is about its markers. -/
theorem filter_methodFaults_of_provider (hprovider : m.isRequest = false) :
    (i.methodFaults outer m).filter (·.isRepeatedMarker) = [] := by
  apply List.filter_eq_nil_iff.mpr
  intro fault hfault hrepeated
  have hstage : fault ∈ i.stageFaults outer m .provision := by
    rwa [methodFaults, if_neg (by simp [hprovider])] at hfault
  have hfinds : Stage.provision.finds fault = true := finds_of_mem_stageFaults hstage
  cases fault with
  | repeatedMarker name => exact Bool.false_ne_true hfinds
  | _ => cases hrepeated

end Interface

/-- When a first definition has repeated markers, each repetition is reported and the method is left out exactly when it is a
request. Of a params provider no repetition is reported. -/
theorem refusesRepetitions_iff_isRequest (i : Interface) (outer : Defaults) {m : Method} (hfirst : i.first? m.name = some m)
    (hrepeated : ¬(m.markers.map Marker.key).Nodup) :
    (i.RefusesRepetitions outer m ↔ m.isRequest = true) ∧
      (m.isRequest = false → (i.outcome outer m.name).errors.filter (·.fault.isRepeatedMarker) = []) := by
  have hprovider : m.isRequest = false → (i.outcome outer m.name).errors.filter (·.fault.isRepeatedMarker) = [] := by
    intro hno
    rw [i.filter_isRepeatedMarker outer hfirst, i.filter_methodFaults_of_provider outer hno]
    rfl
  refine ⟨⟨fun hrefuses => ?_, fun hrequest => ?_⟩, hprovider⟩
  · by_contra hno
    have hnone := hrefuses.reported.symm.trans (hprovider (by simpa using hno))
    exact (Marker.repetitions_ne_nil_iff m.markers).mpr hrepeated (by simpa [Interface.errors] using hnone)
  · have hfaults := i.methodFaults_of_repetitions outer hrequest hrepeated
    have hunresolved : i.resolved? outer m = none := by
      simp [Interface.resolved?, Entry.spec?, Entry.outcome?, Method.prepare_of_repetitions _ hrepeated]
    refine ⟨?_, ?_, ?_⟩
    · rw [i.filter_isRepeatedMarker outer hfirst, hfaults]
      congr 1
      apply List.filter_eq_self.mpr
      intro fault hfault
      obtain ⟨a, -, rfl⟩ := List.mem_map.mp hfault
      rfl
    · simp [Interface.outcome_eq, hfirst, Option.filter, hrequest, hunresolved]
    · simp [Interface.outcome_eq, hfirst, Option.filter, hrequest]

/-- A request and a params provider, each with a marker that is given twice: memory, and the target. -/
def doubledMarkers : Interface where
  name := "Items"
  methods :=
    [{ name := "items", returnType := .wrapping .request "Item", markers := [.network {}] },
     { name := "note", returnType := .wrapping .request "Note", markers := [.memory {}, .network {}, .memory {}] },
     { name := "itemParams", returnType := .wrapping (.sourceParams none) "Item",
       markers := [.paramsProvider "items", .paramsProvider "note"] }]

/-- The request is refused for its second marker of memory. -/
theorem doubledMarkers_refuses_request :
    ∃ m, doubledMarkers.first? "note" = some m ∧ Marker.repetitions m.markers = [.memory {}] ∧
      doubledMarkers.RefusesRepetitions {} m := by
  refine ⟨_, rfl, by decide, ?_⟩
  exact (refusesRepetitions_iff_isRequest doubledMarkers {} rfl (by decide)).1.mpr rfl

/-- The params provider is output with the first of its targets, and its second target is not reported. -/
theorem doubledMarkers_not_refuses :
    ¬∀ m, doubledMarkers.first? m.name = some m → ¬(m.markers.map Marker.key).Nodup →
      doubledMarkers.RefusesRepetitions {} m := by
  intro hall
  obtain ⟨m, hfirst, hrepeated, houtput⟩ : ∃ m, doubledMarkers.first? m.name = some m ∧
      ¬(m.markers.map Marker.key).Nodup ∧ (doubledMarkers.outcome {} m.name).providers ≠ [] := by
    refine ⟨{ name := "itemParams", returnType := .wrapping (.sourceParams none) "Item",
              markers := [.paramsProvider "items", .paramsProvider "note"] }, ?_, ?_, ?_⟩ <;> decide
  exact houtput (hall m hfirst hrepeated).providers

end DataRequests
