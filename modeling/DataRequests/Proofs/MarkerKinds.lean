import DataRequests.Proofs.MarkerOrder
import DataRequests.Proofs.RepeatedMarkers

/-!
# Markers by kind

Markers are sorted by kind when no two have the same key: each kind then says what its one marker says, and the forwarded names stand in
the order in which they were given. Otherwise every marker behind one with its key is a fault of its own, in order
(`Markers.collect_by_kind`). A forwarded marker never stands in the way of one of the library, whatever its name is: the repetitions
are found among the forwarded ones and among the others apart.
-/

namespace DataRequests

namespace Marker

/-! ## Repetitions among some of the keys -/

/-- The repetitions with keys of a kind are the repetitions among the markers with such keys. -/
theorem filter_repetitions (c : Bool × String → Bool) (markers : List Marker) :
    (repetitions markers).filter (c ·.key) = repetitions (markers.filter (c ·.key)) := by
  induction markers using List.reverseRecOn with
  | nil => rfl
  | append_singleton rest a ih =>
    rw [repetitions_concat, List.filter_append, List.filter_append, ih]
    cases ha : c a.key with
    | false =>
      have hnone : (if a.key ∈ rest.map key then [a] else []).filter (c ·.key) = [] := by
        split <;> simp [ha]
      rw [hnone, List.append_nil, List.filter_singleton, ha, cond_false, List.append_nil]
    | true =>
      have hearlier : a.key ∈ (rest.filter (c ·.key)).map key ↔ a.key ∈ rest.map key := by
        simp only [List.mem_map, List.mem_filter]
        constructor
        · rintro ⟨b, ⟨hb, -⟩, hkey⟩
          exact ⟨b, hb, hkey⟩
        · rintro ⟨b, hb, hkey⟩
          exact ⟨b, ⟨hb, hkey ▸ ha⟩, hkey⟩
      rw [List.filter_singleton, ha, cond_true, repetitions_concat]
      simp only [hearlier]
      split <;> simp [ha]

end Marker

namespace Markers

/-- What sorted markers say of each kind: what the marker of the kind says, if there is one. The forwarded names are in order. -/
structure SaysOf (sorted : Markers) (markers : List Marker) : Prop where
  network : ∀ content, sorted.network = some content ↔ .network content ∈ markers
  transport : ∀ binding, sorted.transport = some binding ↔ .transport binding ∈ markers
  database : ∀ content, sorted.database = some content ↔ .database content ∈ markers
  memory : ∀ content, sorted.memory = some content ↔ .memory content ∈ markers
  keyValueStore : ∀ content, sorted.keyValueStore = some content ↔ .keyValueStore content ∈ markers
  reuse : ∀ method, sorted.reuse = some method ↔ .reuse method ∈ markers
  targets : sorted.targets = true ↔ .targets ∈ markers
  controller : ∀ marker, sorted.controller = some marker ↔ .controllerReference marker ∈ markers
  paramsProvider : ∀ target, sorted.paramsProvider = some target ↔ .paramsProvider target ∈ markers
  cancelPrevious : sorted.cancelPrevious = true ↔ .cancelPrevious ∈ markers
  forwarded : sorted.forwarded = (markers.filter (·.isForwarded)).map (·.name)

variable {markers : List Marker}

/-- When no key is given twice, the first marker of each kind is the one marker of the kind. -/
theorem saysOf_ofFirst (hkeys : (markers.map Marker.key).Nodup) : (ofFirst markers).SaysOf markers where
  network := Marker.findSome?_eq_some_iff_mem Marker.readsKind_network? hkeys
  transport := Marker.findSome?_eq_some_iff_mem Marker.readsKind_transport? hkeys
  database := Marker.findSome?_eq_some_iff_mem Marker.readsKind_database? hkeys
  memory := Marker.findSome?_eq_some_iff_mem Marker.readsKind_memory? hkeys
  keyValueStore := Marker.findSome?_eq_some_iff_mem Marker.readsKind_keyValueStore? hkeys
  reuse := Marker.findSome?_eq_some_iff_mem Marker.readsKind_reuse? hkeys
  targets := List.contains_iff_mem
  controller := Marker.findSome?_eq_some_iff_mem Marker.readsKind_controller? hkeys
  paramsProvider := Marker.findSome?_eq_some_iff_mem Marker.readsKind_paramsProvider? hkeys
  cancelPrevious := List.contains_iff_mem
  forwarded := Marker.filterMap_forward?_eq_map_name markers

/-- Markers that are not sorted are refused for their repetitions. -/
theorem collect_eq_error_iff (markers : List Marker) (faults : List Fault) :
    collect markers = .error faults ↔
      ¬(markers.map Marker.key).Nodup ∧ faults = (Marker.repetitions markers).map fun a => .repeatedMarker a.name := by
  rw [← Marker.repetitions_ne_nil_iff, ← Marker.repeats_eq_repetitions]
  unfold collect
  split
  · rename_i h
    exact iff_of_false nofun fun hne => hne.1 h
  · rename_i hne
    rw [Except.error.injEq, eq_comm]
    exact (and_iff_right hne).symm

/-- **What comes of markers.** They are sorted exactly when their keys are distinct, and then each kind says what its one marker says.
Otherwise the faults are one for each marker behind one with the same key, in order. The forwarded markers and those of the library
repeat only each other: the repetitions among the ones are not changed by the others. -/
theorem collect_by_kind (markers : List Marker) :
    ((∃ sorted, collect markers = .ok sorted) ↔ (markers.map Marker.key).Nodup) ∧
    (∀ sorted, collect markers = .ok sorted → sorted.SaysOf markers) ∧
    (∀ faults, collect markers = .error faults →
      faults = (Marker.repetitions markers).map fun a => .repeatedMarker a.name) ∧
    ∀ forwarded, (Marker.repetitions markers).filter (·.isForwarded = forwarded) =
      Marker.repetitions (markers.filter (·.isForwarded = forwarded)) := by
  refine ⟨?_, ?_, ?_, ?_⟩
  · simp only [collect_eq_ok_iff, exists_and_left, exists_eq, and_true]
  · intro sorted h
    obtain ⟨hkeys, rfl⟩ := (collect_eq_ok_iff markers sorted).mp h
    exact saysOf_ofFirst hkeys
  · intro faults h
    exact ((collect_eq_error_iff markers faults).mp h).2
  · intro forwarded
    exact Marker.filter_repetitions (·.1 = forwarded) markers

/-- A forwarded marker with the name of another one, and a marker that is given twice. -/
theorem collect_by_kind_memory :
    (∃ sorted, collect [.memory {}, .forward "memory"] = .ok sorted ∧ sorted.memory = some {} ∧
      sorted.forwarded = ["memory"]) ∧
    collect [.memory {}, .targets, .memory {}, .forward "Deprecated"] = .error [.repeatedMarker "memory"] := by
  constructor
  · obtain ⟨hsorted, htells, -, -⟩ := collect_by_kind [.memory {}, .forward "memory"]
    obtain ⟨sorted, h⟩ := hsorted.mpr (by decide)
    exact ⟨sorted, h, ((htells sorted h).memory {}).mpr (by decide), (htells sorted h).forwarded⟩
  · obtain ⟨hsorted, -, hfaults, -⟩ := collect_by_kind [.memory {}, .targets, .memory {}, .forward "Deprecated"]
    cases h : collect [.memory {}, .targets, .memory {}, .forward "Deprecated"] with
    | ok sorted => exact absurd (hsorted.mp ⟨sorted, h⟩) (by decide)
    | error faults =>
      rw [hfaults faults h]
      rfl

end Markers

end DataRequests
