import DataRequests.Declaration.Document
import DataRequests.Resolution.Markers
import Mathlib.Data.List.Nodup

/-!
# Sorted markers

Statements about `Markers.collect`: the markers of a method are sorted exactly when no two have the same key, and then
every marker is the first of its kind, so that what a search for the first one finds is the marker itself.
-/

namespace DataRequests

namespace Marker

/-- No marker repeats an earlier one exactly when the keys are distinct and none of them has been seen before. -/
theorem repeats_eq_nil_iff (seen : List (Bool × String)) (markers : List Marker) :
    repeats seen markers = [] ↔ (∀ a ∈ markers, a.key ∉ seen) ∧ (markers.map key).Nodup := by
  induction markers generalizing seen with
  | nil => simp [repeats]
  | cons a rest ih =>
    by_cases ha : a.key ∈ seen
    · simp [repeats, ha]
    · rw [repeats, if_neg ha, ih]
      simp only [List.mem_cons, List.map_cons, List.nodup_cons, List.mem_map, forall_eq_or_imp, not_or, not_exists,
        not_and]
      constructor
      · rintro ⟨hseen, hnodup⟩
        exact ⟨⟨ha, fun b hb => (hseen b hb).2⟩, fun b hb => (hseen b hb).1, hnodup⟩
      · rintro ⟨⟨_, hseen⟩, hne, hnodup⟩
        exact ⟨fun b hb => ⟨hne b hb, hseen b hb⟩, hnodup⟩

/-- The method that a marker reuses is written in a reusing marker and in no other. -/
theorem reuse?_eq_some_iff (a : Marker) (target : String) : a.reuse? = some target ↔ a = .reuse target := by
  cases a <;> simp [reuse?]

/-! ## The content of a kind -/

variable {α : Type} {f : Marker → Option α} {make : α → Marker} {markers : List Marker}

/-- A function reads the content of the markers of one kind; they share their key. -/
structure ReadsKind (f : Marker → Option α) (make : α → Marker) : Prop where
  eq_some_iff : ∀ a content, f a = some content ↔ a = make content
  key_eq : ∀ content content', (make content).key = (make content').key

/-- Each reader of markers reads one kind. -/
theorem readsKind_network? : ReadsKind network? .network :=
  ⟨fun a _ => by cases a <;> simp [network?], fun _ _ => rfl⟩

theorem readsKind_transport? : ReadsKind transport? .transport :=
  ⟨fun a _ => by cases a <;> simp [transport?], fun _ _ => rfl⟩

theorem readsKind_database? : ReadsKind database? .database :=
  ⟨fun a _ => by cases a <;> simp [database?], fun _ _ => rfl⟩

theorem readsKind_memory? : ReadsKind memory? .memory :=
  ⟨fun a _ => by cases a <;> simp [memory?], fun _ _ => rfl⟩

theorem readsKind_keyValueStore? : ReadsKind keyValueStore? .keyValueStore :=
  ⟨fun a _ => by cases a <;> simp [keyValueStore?], fun _ _ => rfl⟩

theorem readsKind_reuse? : ReadsKind reuse? .reuse :=
  ⟨reuse?_eq_some_iff, fun _ _ => rfl⟩

theorem readsKind_controller? : ReadsKind controller? .controllerReference :=
  ⟨fun a _ => by cases a <;> simp [controller?], fun _ _ => rfl⟩

theorem readsKind_paramsProvider? : ReadsKind paramsProvider? .paramsProvider :=
  ⟨fun a _ => by cases a <;> simp [paramsProvider?], fun _ _ => rfl⟩

/-- Among markers with distinct keys, the content that is found for a kind is that of the one marker of the kind. -/
theorem findSome?_eq_some_iff_mem (hf : ReadsKind f make) (hkeys : (markers.map key).Nodup) (content : α) :
    markers.findSome? f = some content ↔ make content ∈ markers := by
  constructor
  · intro h
    obtain ⟨a, ha, hread⟩ := List.exists_of_findSome?_eq_some h
    rwa [← (hf.eq_some_iff a content).mp hread]
  · intro h
    have hread : f (make content) = some content := (hf.eq_some_iff _ _).mpr rfl
    have hsome : (markers.findSome? f).isSome = true := List.findSome?_isSome_iff.mpr ⟨_, h, by rw [hread]; rfl⟩
    obtain ⟨found, hfound⟩ := Option.isSome_iff_exists.mp hsome
    obtain ⟨a, ha, hread'⟩ := List.exists_of_findSome?_eq_some hfound
    obtain rfl := (hf.eq_some_iff a found).mp hread'
    have hsame : make found = make content := List.inj_on_of_nodup_map hkeys ha h (hf.key_eq found content)
    rw [hfound, ← hread', hsame, hread]

end Marker

namespace Markers

/-- Markers are sorted exactly when their keys are distinct; each kind is then given by its first marker. -/
theorem collect_eq_ok_iff (markers : List Marker) (sorted : Markers) :
    collect markers = .ok sorted ↔ (markers.map Marker.key).Nodup ∧ sorted = ofFirst markers := by
  have hnodup : Marker.repeats [] markers = [] ↔ (markers.map Marker.key).Nodup := by
    simp [Marker.repeats_eq_nil_iff]
  rw [← hnodup]
  unfold collect
  split
  · rename_i h
    simp [h, eq_comm]
  · rename_i hne
    exact iff_of_false nofun fun h => hne h.1

end Markers

/-- A method whose markers have distinct keys reuses the method that any reusing marker of it names. -/
theorem Method.reuseTarget_of_mem {m : Method} {target : String} (hkeys : (m.markers.map Marker.key).Nodup)
    (h : Marker.reuse target ∈ m.markers) : m.reuseTarget = some target :=
  (Marker.findSome?_eq_some_iff_mem Marker.readsKind_reuse? hkeys target).mpr h

end DataRequests
