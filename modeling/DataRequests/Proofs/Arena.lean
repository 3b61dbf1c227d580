import DataRequests.Arena

/-!
# What an arena holds

An arena that is only added to keeps its values side by side, from the first slot on and in the order in which they came
(`Arena.Holds`). Growing adds free slots behind them, so that a value always goes right after the last one.
-/

namespace DataRequests

namespace Arena

variable {α : Type} {a : Arena α} {entries : List (String × α)}

/-- An arena holds keys with values, in this order: the values are in its first slots, the other slots are free, and each key
leads to the slot of its value. -/
structure Holds (a : Arena α) (entries : List (String × α)) : Prop where
  slots : ∃ free, a.slots = (entries.map (·.2)).map some ++ List.replicate free none
  keys : a.keys = entries.mapIdx fun slot e => (e.1, slot)

/-- The empty arena holds nothing. -/
theorem holds_empty : (empty : Arena α).Holds [] :=
  ⟨⟨4, rfl⟩, rfl⟩

/-- The values of an arena, in order. -/
theorem Holds.values_eq (h : a.Holds entries) : a.values = entries.map (·.2) := by
  obtain ⟨free, hslots⟩ := h.slots
  simp [values, hslots, List.filterMap_replicate_of_none]

/-- The keys that are taken are those of the values. -/
theorem Holds.contains_iff (h : a.Holds entries) (key : String) :
    a.contains key = true ↔ ∃ e ∈ entries, e.1 = key := by
  simp only [contains, id?, h.keys, Option.isSome_map, List.find?_isSome, decide_eq_true_eq, List.mem_mapIdx]
  constructor
  · rintro ⟨_, ⟨slot, hslot, rfl⟩, hkey⟩
    exact ⟨_, List.getElem_mem hslot, hkey⟩
  · rintro ⟨e, he, hkey⟩
    obtain ⟨slot, hslot, rfl⟩ := List.getElem_of_mem he
    exact ⟨_, ⟨slot, hslot, rfl⟩, hkey⟩

/-- The slot of a key is the place of its value. -/
theorem Holds.id?_eq (h : a.Holds entries) (key : String) : a.id? key = entries.findIdx? (·.1 = key) := by
  have hoffset : ∀ (entries : List (String × α)) (start : Nat),
      ((entries.mapIdx fun slot e => (e.1, slot + start)).find? (·.1 = key)).map (·.2) =
        (entries.findIdx? (·.1 = key)).map (· + start) := by
    intro entries
    induction entries with
    | nil => simp
    | cons e rest ih =>
      intro start
      rw [List.mapIdx_cons, List.find?_cons, List.findIdx?_cons]
      by_cases hkey : e.1 = key
      · simp [hkey]
      · have hnext := ih (start + 1)
        simp only [hkey, decide_false]
        simpa [Function.comp_def, Nat.add_assoc, Nat.add_comm 1] using hnext
  rw [id?, h.keys]
  simpa using hoffset entries 0

/-- A key leads to the first value under it. -/
theorem Holds.find_eq (h : a.Holds entries) (key : String) :
    a.find key = match entries.find? (·.1 = key) with
      | none => .unknown
      | some e => .value e.2 := by
  obtain ⟨free, hslots⟩ := h.slots
  rw [find, h.id?_eq, List.find?_eq_bind_findIdx?_getElem?]
  cases hplace : entries.findIdx? (·.1 = key) with
  | none => rfl
  | some slot =>
    obtain ⟨hlt, -, -⟩ := List.findIdx?_eq_some_iff_getElem.mp hplace
    have hslot : a.slot? slot = some entries[slot].2 := by
      rw [slot?, hslots, List.getElem?_append_left (by simpa using hlt)]
      simp [hlt]
    simp [hslot, hlt]

/-- Growing leaves a free slot behind the values. -/
theorem grow_slots (values : List α) (free : Nat) :
    ∃ rest, grow (values.map some ++ List.replicate free none) = values.map some ++ none :: List.replicate rest none := by
  unfold grow
  cases free with
  | zero =>
    have hfull : (values.map some ++ List.replicate 0 none).all (·.isSome) = true := by simp
    rw [if_pos hfull]
    refine ⟨max 1 values.length - 1, ?_⟩
    have hpos : max 1 values.length = max 1 values.length - 1 + 1 := by omega
    simp only [List.replicate_zero, List.append_nil, List.length_map]
    rw [hpos, List.replicate_succ]
    rfl
  | succ free =>
    rw [if_neg (by simp)]
    exact ⟨free, rfl⟩

/-- A value goes right after the last one. -/
theorem fill_slots (values : List α) (value : α) (rest : List (Option α)) :
    fill value (values.map some ++ none :: rest) = (values ++ [value]).map some ++ rest := by
  induction values with
  | nil => rfl
  | cons v vs ih => simp [fill, ih]

/-- The lowest free slot, or the first one that growing adds, is right after the last value. -/
theorem findIdx_slots (values : List α) (free : Nat) :
    (values.map some ++ List.replicate free none).findIdx Option.isNone = values.length := by
  induction values with
  | nil => cases free <;> simp [List.replicate_succ, List.findIdx_cons]
  | cons v vs ih => simp [List.findIdx_cons, ih]

/-- A value that is added goes right after the others. -/
theorem Holds.nextSlot_eq (h : a.Holds entries) : a.nextSlot = entries.length := by
  obtain ⟨free, hslots⟩ := h.slots
  rw [nextSlot, hslots, findIdx_slots, List.length_map]

/-- Adding a value under a key puts the two last. -/
theorem Holds.insert (h : a.Holds entries) (key : String) (value : α) :
    (a.insert key value).Holds (entries ++ [(key, value)]) := by
  obtain ⟨free, hslots⟩ := h.slots
  obtain ⟨rest, hgrow⟩ := grow_slots (entries.map (·.2)) free
  constructor
  · refine ⟨rest, ?_⟩
    rw [Arena.insert, hslots, hgrow, fill_slots, List.map_append]
    simp
  · rw [Arena.insert, h.keys, h.nextSlot_eq, List.mapIdx_concat]

/-! ## Other values in the same slots -/

variable {β : Type} (f : α → β)

/-- An arena with other values in its slots. -/
def map (a : Arena α) : Arena β where
  slots := a.slots.map (Option.map f)
  keys := a.keys

/-- The values of the other arena are made from those of the first. -/
theorem values_map (a : Arena α) : (a.map f).values = a.values.map f := by
  simp only [values, map, List.filterMap_map, List.map_filterMap]
  rfl

theorem fill_map (value : α) (slots : List (Option α)) :
    fill (f value) (slots.map (Option.map f)) = (fill value slots).map (Option.map f) := by
  induction slots with
  | nil => rfl
  | cons slot rest ih =>
    cases slot with
    | none => rfl
    | some other => simp [fill, ih]

theorem grow_map (slots : List (Option α)) :
    grow (slots.map (Option.map f)) = (grow slots).map (Option.map f) := by
  have hfull : (slots.map (Option.map f)).all (·.isSome) = slots.all (·.isSome) := by
    rw [List.all_map]
    congr 1
    funext slot
    simp
  unfold grow
  rw [hfull, List.length_map]
  split <;> simp

/-- Values may be changed before or after they are added: they go into the same slots. -/
theorem map_insert (a : Arena α) (key : String) (value : α) :
    (a.insert key value).map f = (a.map f).insert key (f value) := by
  have hnext : (a.map f).nextSlot = a.nextSlot := by
    simp only [nextSlot, map, List.findIdx_map]
    congr 1
    funext slot
    simp
  simp only [insert, map, ← fill_map, ← grow_map]
  rw [← hnext]
  rfl

end Arena

end DataRequests
