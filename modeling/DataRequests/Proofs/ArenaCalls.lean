import DataRequests.Arena.Written
import DataRequests.Proofs.Arena
import Mathlib.Data.List.Induction
import Mathlib.Data.List.Nodup
import Mathlib.Data.String.Basic

/-!
# Arenas that are only called

What an arena holds after any calls is told by the calls alone (`Arena.Recorded`): the keys are those of the calls, each leads to the
value that first came with it, and a call that comes later changes neither. The values fill the first slots in the order in which their
keys came up, and there are as many slots as doubling from four makes necessary.
-/

namespace DataRequests

/-! ## Members in the order of their keys -/

namespace Json

variable {α : Type}

/-- A member is put between the others. -/
theorem insertMember_perm (m : String × α) (members : List (String × α)) : (insertMember m members).Perm (m :: members) := by
  induction members with
  | nil => exact .refl _
  | cons n rest ih =>
    rw [insertMember]
    split
    · exact (ih.cons n).trans (.swap m n rest)
    · exact .refl _

/-- Sorting keeps the members. -/
theorem sortMembers_perm (members : List (String × α)) : (sortMembers members).Perm members := by
  induction members with
  | nil => exact .refl _
  | cons m rest ih => exact (insertMember_perm m (sortMembers rest)).trans (ih.cons m)

/-- A member with a new key is put where the keys stay in order. -/
theorem pairwise_insertMember {m : String × α} {members : List (String × α)} (hsorted : members.Pairwise (·.1 < ·.1))
    (hnew : ∀ n ∈ members, n.1 ≠ m.1) : (insertMember m members).Pairwise (·.1 < ·.1) := by
  induction members with
  | nil => exact List.pairwise_singleton _ _
  | cons n rest ih =>
    obtain ⟨hn, hrest⟩ := List.pairwise_cons.mp hsorted
    rw [insertMember]
    split
    · next hlt =>
      refine List.pairwise_cons.mpr ⟨?_, ih hrest fun o ho => hnew o (List.mem_cons_of_mem n ho)⟩
      intro o ho
      rcases List.mem_cons.mp ((insertMember_perm m rest).mem_iff.mp ho) with rfl | ho
      · exact hlt
      · exact hn o ho
    · next hge =>
      have hlt : m.1 < n.1 := lt_of_le_of_ne (not_lt.mp hge) (hnew n List.mem_cons_self).symm
      refine List.pairwise_cons.mpr ⟨?_, hsorted⟩
      intro o ho
      rcases List.mem_cons.mp ho with rfl | ho
      · exact hlt
      · exact hlt.trans (hn o ho)

/-- Members with different keys are sorted by them. -/
theorem pairwise_sortMembers {members : List (String × α)} (hkeys : (members.map (·.1)).Nodup) :
    (sortMembers members).Pairwise (·.1 < ·.1) := by
  induction members with
  | nil => exact .nil
  | cons m rest ih =>
    obtain ⟨hm, hrest⟩ := List.nodup_cons.mp hkeys
    refine pairwise_insertMember (ih hrest) ?_
    intro n hn hkey
    have hn : n ∈ rest := (sortMembers_perm rest).mem_iff.mp hn
    exact hm (List.mem_map.mpr ⟨n, hn, hkey⟩)

end Json

namespace Arena

variable {α : Type}

/-! ## What calls record -/

namespace Call

/-- The keys of some calls, each once, in the order in which they come up. -/
def keys (calls : List (Call α)) : List String :=
  (calls.map (·.key)).eraseDups

/-- The value that came first with a key. -/
def first? (calls : List (Call α)) (key : String) : Option α :=
  (calls.find? (·.key = key)).map (·.value)

/-- What calls record: their keys, each with the value that came first with it. -/
def entries (calls : List (Call α)) : List (String × α) :=
  (keys calls).filterMap fun key => (first? calls key).map (key, ·)

variable (calls : List (Call α)) (c : Call α) {key : String}

theorem mem_keys_iff : key ∈ keys calls ↔ ∃ c ∈ calls, c.key = key := by
  rw [keys, List.mem_eraseDups, List.mem_map]

/-- A key has a first value when it has come up. -/
theorem isSome_first?_iff : (first? calls key).isSome = true ↔ key ∈ keys calls := by
  rw [mem_keys_iff, first?, Option.isSome_map, List.find?_isSome]
  simp

/-- The keys after one more call: its key is the last one, unless it has come up before. -/
theorem keys_concat : keys (calls ++ [c]) = if c.key ∈ keys calls then keys calls else keys calls ++ [c.key] := by
  have hkeys : keys (calls ++ [c]) = keys calls ++ ([c.key].removeAll (calls.map (·.key))).eraseDups := by
    rw [keys, List.map_append, List.eraseDups_append, ← keys, List.map_cons, List.map_nil]
  rw [hkeys, List.removeAll, List.filter_cons]
  by_cases h : c.key ∈ keys calls
  · have helem : (calls.map (·.key)).elem c.key = true := List.elem_eq_true_of_mem (List.mem_eraseDups.mp h)
    rw [if_pos h, helem]
    exact List.append_nil _
  · have helem : (calls.map (·.key)).elem c.key = false := by
      rw [Bool.eq_false_iff]
      exact fun helem => h (List.mem_eraseDups.mpr (List.mem_of_elem_eq_true helem))
    rw [if_neg h, helem]
    rfl

/-- No key stands twice. -/
theorem nodup_keys : (keys calls).Nodup := by
  induction calls using List.reverseRecOn with
  | nil => exact List.nodup_nil
  | append_singleton calls c ih =>
    rw [keys_concat]
    split
    · exact ih
    · next h => exact List.concat_eq_append ▸ ih.concat h

/-- The first value with a key after one more call. -/
theorem first?_concat : first? (calls ++ [c]) key = (first? calls key).or (if c.key = key then some c.value else none) := by
  rw [first?, first?, List.find?_append]
  cases calls.find? (·.key = key) with
  | some first => rfl
  | none => by_cases h : c.key = key <;> simp [h]

/-- A key that has come up keeps its first value. -/
theorem first?_append {more : List (Call α)} (h : key ∈ keys calls) : first? (calls ++ more) key = first? calls key := by
  obtain ⟨first, hfirst⟩ := Option.isSome_iff_exists.mp ((isSome_first?_iff calls).mpr h)
  rw [first?, Option.map_eq_some_iff] at hfirst
  obtain ⟨c, hc, -⟩ := hfirst
  rw [first?, first?, List.find?_append, hc, Option.some_or]

/-- What is recorded after one more call: its key and its value, unless the key has come up before. -/
theorem entries_concat :
    entries (calls ++ [c]) = if c.key ∈ keys calls then entries calls else entries calls ++ [(c.key, c.value)] := by
  have hold : ((keys calls).filterMap fun key => (first? (calls ++ [c]) key).map (key, ·)) = entries calls := by
    refine List.filterMap_congr fun key hkey => ?_
    rw [first?_append calls hkey]
  rw [entries, keys_concat]
  split
  · exact hold
  · next h =>
    have hnone : first? calls c.key = none := by
      rw [← Option.not_isSome_iff_eq_none, isSome_first?_iff]
      exact h
    rw [List.filterMap_append, hold]
    simp [first?_concat, hnone]

/-- The recorded keys are those that have come up. -/
theorem map_fst_entries : (entries calls).map (·.1) = keys calls := by
  rw [entries, List.map_filterMap]
  conv_rhs => rw [← List.filterMap_some (l := keys calls)]
  refine List.filterMap_congr fun key hkey => ?_
  obtain ⟨value, hvalue⟩ := Option.isSome_iff_exists.mp ((isSome_first?_iff calls).mpr hkey)
  rw [hvalue]
  rfl

theorem length_entries : (entries calls).length = (keys calls).length := by
  rw [← map_fst_entries, List.length_map]

/-- The recorded values are the first ones with the keys. -/
theorem map_snd_entries : (entries calls).map (·.2) = (keys calls).filterMap (first? calls) := by
  rw [entries, List.map_filterMap]
  refine List.filterMap_congr fun key _ => ?_
  cases first? calls key <;> rfl

/-- The keys keep their places when more calls are made. -/
theorem keys_prefix (more : List (Call α)) : keys calls <+: keys (calls ++ more) := by
  rw [keys, keys, List.map_append, List.eraseDups_append]
  exact List.prefix_append _ _

/-- A key that has come up keeps its place. -/
theorem idxOf_keys_append (more : List (Call α)) (h : key ∈ keys calls) :
    (keys (calls ++ more)).idxOf key = (keys calls).idxOf key := by
  obtain ⟨rest, hrest⟩ := keys_prefix calls more
  rw [← hrest, List.idxOf_append_of_mem h]

/-- What a call gives after others: the place that its key has among the keys then, or its value if it may be rejected and the key
has come up. -/
def answer : Call α → Answer α
  | .add key value => .slot ((keys (calls ++ [.add key value])).idxOf key)
  | .tryAdd key value =>
    if key ∈ keys calls then .rejected value else .slot ((keys (calls ++ [.tryAdd key value])).idxOf key)

/-- A new key has the place behind the others. -/
theorem idxOf_keys_concat (h : c.key ∉ keys calls) : (keys (calls ++ [c])).idxOf c.key = (keys calls).length := by
  rw [keys_concat, if_neg h, List.idxOf_append_of_notMem h, List.idxOf_cons_self, Nat.add_zero]

/-- After a call under a new key its slot is given, behind the others. -/
theorem answer_of_new (h : c.key ∉ keys calls) : answer calls c = .slot (keys calls).length := by
  rw [← idxOf_keys_concat calls c h]
  cases c with
  | add key value => rfl
  | tryAdd key value => exact if_neg h

end Call

/-! ## What one call does -/

variable {a : Arena α} {calls : List (Call α)} {key : String} {value : α} {slot : Nat}

/-- A call adds its value under a key that is not taken. -/
theorem call_of_unknown {c : Call α} (h : a.id? c.key = none) : a.call c = (.slot a.nextSlot, a.insert c.key c.value) := by
  cases c with
  | add key value =>
    have h : a.id? key = none := h
    simp only [call, add, h, Call.key, Call.value]
  | tryAdd key value =>
    have h : a.contains key = false := by rw [contains, show a.id? key = none from h, Option.isSome_none]
    simp only [call, tryAdd, h, Call.key, Call.value, Bool.false_eq_true, if_false]

/-- The slot of a taken key is given, and the arena stays as it is. -/
theorem call_add_of_taken (h : a.id? key = some slot) : a.call (.add key value) = (.slot slot, a) := by
  simp only [call, add, h]

/-- The value for a taken key comes back, and the arena stays as it is. -/
theorem call_tryAdd_of_taken (h : a.id? key = some slot) : a.call (.tryAdd key value) = (.rejected value, a) := by
  have h : a.contains key = true := by rw [contains, h, Option.isSome_some]
  simp only [call, tryAdd, h, if_true]

/-- The slot of a key is its place among the keys. -/
theorem Holds.id?_eq_idxOf? (h : a.Holds (Call.entries calls)) (key : String) : a.id? key = (Call.keys calls).idxOf? key := by
  rw [h.id?_eq, ← Call.map_fst_entries, List.idxOf?, List.findIdx?_map]
  rfl

/-- A key that has come up leads to its place. -/
theorem Holds.id?_of_mem (h : a.Holds (Call.entries calls)) (hkey : key ∈ Call.keys calls) :
    a.id? key = some ((Call.keys calls).idxOf key) := by
  rw [h.id?_eq_idxOf?, List.idxOf_eq_getD_idxOf?]
  cases hplace : (Call.keys calls).idxOf? key with
  | none => exact absurd hkey (List.idxOf?_eq_none_iff.mp hplace)
  | some place => rfl

/-- A key that has not come up leads nowhere. -/
theorem Holds.id?_of_notMem (h : a.Holds (Call.entries calls)) (hkey : key ∉ Call.keys calls) : a.id? key = none := by
  rw [h.id?_eq_idxOf?, List.idxOf?_eq_none_iff]
  exact hkey

/-- **One call.** An arena that holds what some calls record answers the next call by them, holds what is recorded with it, and is
left as it is when the key has come up. -/
theorem Holds.call (h : a.Holds (Call.entries calls)) (c : Call α) :
    (a.call c).1 = Call.answer calls c ∧ (a.call c).2.Holds (Call.entries (calls ++ [c])) ∧
      (c.key ∈ Call.keys calls → (a.call c).2 = a) := by
  by_cases hkey : c.key ∈ Call.keys calls
  · have hentries : Call.entries (calls ++ [c]) = Call.entries calls := by rw [Call.entries_concat, if_pos hkey]
    have hplace : (Call.keys (calls ++ [c])).idxOf c.key = (Call.keys calls).idxOf c.key := Call.idxOf_keys_append calls [c] hkey
    rw [hentries]
    cases c with
    | add key value =>
      have hid : a.id? key = some ((Call.keys calls).idxOf key) := h.id?_of_mem hkey
      rw [call_add_of_taken hid]
      exact ⟨congrArg Answer.slot hplace.symm, h, fun _ => rfl⟩
    | tryAdd key value =>
      have hid : a.id? key = some ((Call.keys calls).idxOf key) := h.id?_of_mem hkey
      rw [call_tryAdd_of_taken hid]
      exact ⟨(if_pos hkey).symm, h, fun _ => rfl⟩
  · rw [call_of_unknown (h.id?_of_notMem hkey), Call.answer_of_new calls c hkey, Call.entries_concat, if_neg hkey, h.nextSlot_eq,
      Call.length_entries]
    exact ⟨rfl, h.insert c.key c.value, fun h => absurd h hkey⟩

/-! ## The number of slots -/

/-- The number of slots is the smallest one of the form `4 · 2 ^ k` that holds so many values. -/
def IsCapacity (slots count : Nat) : Prop :=
  ∃ k, slots = 4 * 2 ^ k ∧ count ≤ 4 * 2 ^ k ∧ ∀ j, count ≤ 4 * 2 ^ j → k ≤ j

theorem length_fill (value : α) (slots : List (Option α)) : (fill value slots).length = slots.length := by
  induction slots with
  | nil => rfl
  | cons slot rest ih =>
    cases slot with
    | none => rfl
    | some other => simp [fill, ih]

/-- One more value keeps the number of slots when there is a free one, and doubles it when there is none. -/
theorem Holds.length_slots_insert {entries : List (String × α)} (h : a.Holds entries) (key : String) (value : α) :
    (a.insert key value).slots.length =
      if entries.length < a.slots.length then a.slots.length else a.slots.length + max 1 a.slots.length := by
  obtain ⟨free, hslots⟩ := h.slots
  have hlength : a.slots.length = entries.length + free := by simp [hslots]
  have hfull : a.slots.all (·.isSome) = decide (free = 0) := by
    rw [hslots]
    cases free with
    | zero => simp
    | succ free => simp [List.replicate_succ]
  rw [Arena.insert, length_fill, grow, hfull]
  by_cases hfree : free = 0
  · rw [if_pos (by simpa using hfree), if_neg (by omega)]
    simp
  · rw [if_neg (by simpa using hfree), if_pos (by omega)]

/-- The slots stay as few as they can be when one more value is added. -/
theorem IsCapacity.insert {entries : List (String × α)} (hslots : IsCapacity a.slots.length entries.length) (h : a.Holds entries)
    (key : String) (value : α) : IsCapacity (a.insert key value).slots.length (entries.length + 1) := by
  obtain ⟨k, hk, hcount, hleast⟩ := hslots
  have hpos : 0 < 2 ^ k := Nat.two_pow_pos k
  rw [h.length_slots_insert, hk]
  by_cases hfree : entries.length < 4 * 2 ^ k
  · rw [if_pos hfree]
    exact ⟨k, rfl, hfree, fun j hj => hleast j (by omega)⟩
  · rw [if_neg hfree]
    refine ⟨k + 1, by rw [Nat.pow_succ]; omega, by rw [Nat.pow_succ]; omega, ?_⟩
    intro j hj
    have hlt : 2 ^ k < 2 ^ j := by omega
    exact (Nat.pow_lt_pow_iff_right (by decide)).mp hlt

/-! ## What a run does -/

/-- **A run of calls.** The arena holds what the calls record, in as few slots as it can. -/
theorem run_holds (calls : List (Call α)) :
    (run empty calls).Holds (Call.entries calls) ∧ IsCapacity (run empty calls).slots.length (Call.keys calls).length := by
  induction calls using List.reverseRecOn with
  | nil => exact ⟨holds_empty, 0, rfl, Nat.zero_le 4, fun j _ => Nat.zero_le j⟩
  | append_singleton calls c ih =>
    obtain ⟨hholds, hslots⟩ := ih
    have hrun : run empty (calls ++ [c]) = ((run empty calls).call c).2 := by simp [run]
    obtain ⟨-, hnext, hsame⟩ := hholds.call c
    rw [hrun]
    refine ⟨hnext, ?_⟩
    rw [Call.keys_concat]
    by_cases hkey : c.key ∈ Call.keys calls
    · rw [if_pos hkey, hsame hkey]
      exact hslots
    · rw [← Call.length_entries] at hslots
      rw [if_neg hkey, call_of_unknown (hholds.id?_of_notMem hkey), List.length_append, ← Call.length_entries]
      exact hslots.insert hholds c.key c.value

/-! ## The written form -/

/-- The members of an object lead from keys, in their order, to the places of the keys. -/
def IsIndex (keys : List String) (members : List (String × Json)) : Prop :=
  members.Pairwise (·.1 < ·.1) ∧
    ∀ key id, (key, id) ∈ members ↔ key ∈ keys ∧ id = .object [("index", .integer (keys.idxOf key)), ("generation", .null)]

/-- The keys of an arena are those that have come up. -/
theorem Holds.map_fst_keys (h : a.Holds (Call.entries calls)) : a.keys.map (·.1) = Call.keys calls := by
  rw [h.keys, ← Call.map_fst_entries]
  apply List.ext_getElem
  · simp
  · intro place _ _
    simp

/-- The keys of an arena stand with their places. -/
theorem Holds.mem_keys_iff (h : a.Holds (Call.entries calls)) (key : String) (slot : Nat) :
    (key, slot) ∈ a.keys ↔ key ∈ Call.keys calls ∧ slot = (Call.keys calls).idxOf key := by
  have hnodup := Call.nodup_keys calls
  rw [h.keys, List.mem_mapIdx]
  rw [← Call.map_fst_entries] at hnodup ⊢
  constructor
  · rintro ⟨place, hplace, hpair⟩
    obtain ⟨rfl, rfl⟩ := Prod.mk.inj hpair
    have hmapped : place < ((Call.entries calls).map (·.1)).length := by simpa using hplace
    have hget : (Call.entries calls)[place].1 = ((Call.entries calls).map (·.1))[place] := by simp
    rw [hget]
    exact ⟨List.getElem_mem _, (hnodup.idxOf_getElem place _).symm⟩
  · rintro ⟨hkey, rfl⟩
    have hplace := List.idxOf_lt_length_of_mem hkey
    have hget := List.getElem_idxOf hplace
    rw [List.getElem_map] at hget
    exact ⟨_, by simpa using hplace, by rw [hget]⟩

/-- The keys of an arena are written in their order, each with its slot. -/
theorem Holds.isIndex (h : a.Holds (Call.entries calls)) :
    IsIndex (Call.keys calls) ((Json.sortMembers a.keys).map fun (key, slot) => (key, idToJson slot)) := by
  refine ⟨?_, ?_⟩
  · rw [List.pairwise_map]
    exact Json.pairwise_sortMembers (h.map_fst_keys.symm ▸ Call.nodup_keys calls)
  · intro key id
    rw [List.mem_map]
    constructor
    · rintro ⟨⟨_, slot⟩, hmem, hpair⟩
      obtain ⟨rfl, rfl⟩ := Prod.mk.inj hpair
      obtain ⟨hkey, rfl⟩ := (h.mem_keys_iff _ slot).mp ((Json.sortMembers_perm a.keys).mem_iff.mp hmem)
      exact ⟨hkey, rfl⟩
    · rintro ⟨hkey, rfl⟩
      exact ⟨(key, (Call.keys calls).idxOf key), (Json.sortMembers_perm a.keys).mem_iff.mpr ((h.mem_keys_iff _ _).mpr ⟨hkey, rfl⟩), rfl⟩

/-- The values are counted by their slots. -/
theorem size_eq_length_values (a : Arena α) : a.size = a.values.length :=
  List.length_filterMap_eq_countP.symm

/-- The values of an arena are written in its first slots. -/
theorem Holds.toJson_eq (h : a.Holds (Call.entries calls)) (write : α → Json) :
    ∃ free, a.slots.length = a.values.length + free ∧
      a.toJson write =
        .object
          [("values", .array (a.values.map (fun v => .array [.null, write v]) ++ List.replicate free .null)),
           ("map", .object ((Json.sortMembers a.keys).map fun (key, slot) => (key, idToJson slot)))] := by
  obtain ⟨free, hslots⟩ := h.slots
  refine ⟨free, ?_, ?_⟩
  · rw [h.values_eq, hslots]
    simp
  · rw [toJson, h.values_eq, hslots, Json.ofList]
    simp [slotToJson, Function.comp_def]

/-! ## What an arena tells of calls -/

/-- A call is rejected when it may be and its key has come up. -/
def Call.IsRejected (before : List (Call α)) (c : Call α) : Prop :=
  (∃ b ∈ before, b.key = c.key) ∧ c = .tryAdd c.key c.value

/-- A call that is not rejected is given the place of its key. -/
theorem Call.answer_of_not_rejected {before : List (Call α)} {c : Call α} (h : ¬c.IsRejected before) :
    answer before c = .slot ((keys (before ++ [c])).idxOf c.key) := by
  cases c with
  | add key value => rfl
  | tryAdd key value => exact if_neg fun hkey => h ⟨(mem_keys_iff before).mp hkey, rfl⟩

/-- What an arena that was empty tells of the calls that were made on it. -/
structure Recorded (calls : List (Call α)) : Prop where
  /-- The keys are the different keys of the calls, and their number is the size. -/
  contains : ∀ key, (run empty calls).contains key = true ↔ ∃ c ∈ calls, c.key = key
  keys : (run empty calls).keys.map (·.1) = Call.keys calls
  nodup : (Call.keys calls).Nodup
  size : (run empty calls).size = (Call.keys calls).length
  /-- Under a key the value is found that first came with it. -/
  find : ∀ key, (run empty calls).find key =
    match calls.find? (·.key = key) with
    | none => .unknown
    | some c => .value c.value
  /-- That value is in the slot of the key, and different keys have different slots. -/
  slot : ∀ key slot, (run empty calls).id? key = some slot →
    (run empty calls).slot? slot = (calls.find? (·.key = key)).map (·.value)
  slots : ∀ key key' slot, (run empty calls).id? key = some slot → (run empty calls).id? key' = some slot → key = key'
  /-- The first values stand in the order in which their keys came up. -/
  values : (run empty calls).values = (Call.keys calls).filterMap fun key => (calls.find? (·.key = key)).map (·.value)
  /-- A call that was rejected got its value back and left the arena as it was. -/
  rejects : ∀ before c after, calls = before ++ c :: after → c.IsRejected before →
    (run empty before).call c = (.rejected c.value, run empty before)
  /-- Any other call got the slot that its key has now. -/
  answers : ∀ before c after, calls = before ++ c :: after → ¬c.IsRejected before →
    ∃ slot, ((run empty before).call c).1 = .slot slot ∧ (run empty calls).id? c.key = some slot
  /-- More calls change neither the slot of a key nor the value in it. -/
  stays : ∀ more key slot, (run empty calls).id? key = some slot →
    (run empty (calls ++ more)).id? key = some slot ∧ (run empty (calls ++ more)).slot? slot = (run empty calls).slot? slot ∧
      (run empty (calls ++ more)).find key = (run empty calls).find key
  /-- The values are written in the first slots, the others are free, and there are no more slots than doubling from four makes
  necessary. The keys are written in their order, each with its slot. -/
  json : ∀ write : α → Json, ∃ free members,
    (run empty calls).toJson write =
      .object
        [("values", .array ((run empty calls).values.map (fun v => .array [.null, write v]) ++ List.replicate free .null)),
         ("map", .object members)] ∧
      IsCapacity ((run empty calls).values.length + free) (run empty calls).size ∧ IsIndex (Call.keys calls) members

/-- A value that is found first among the calls is found first among what they record. -/
theorem Call.find?_entries (calls : List (Call α)) (key : String) :
    (Call.entries calls).find? (·.1 = key) = (Call.first? calls key).map (key, ·) := by
  induction calls using List.reverseRecOn with
  | nil => rfl
  | append_singleton calls c ih =>
    rw [Call.entries_concat]
    split
    · next hkey =>
      rw [ih, Call.first?_concat]
      by_cases hsame : c.key = key
      · subst hsame
        obtain ⟨first, hfirst⟩ := Option.isSome_iff_exists.mp ((Call.isSome_first?_iff calls).mpr hkey)
        rw [hfirst, Option.some_or]
      · rw [if_neg hsame, Option.or_none]
    · rw [List.find?_append, ih, Call.first?_concat]
      cases Call.first? calls key with
      | some first => rfl
      | none => by_cases hsame : c.key = key <;> simp [hsame]

/-- Under a key the value is found that first came with it. -/
theorem Holds.find_eq_first (h : a.Holds (Call.entries calls)) (key : String) :
    a.find key =
      match calls.find? (·.key = key) with
      | none => .unknown
      | some c => .value c.value := by
  rw [h.find_eq, Call.find?_entries, Call.first?]
  cases calls.find? (·.key = key) <;> rfl

/-- A key that has a slot has come up, and what is found under it is in the slot. -/
theorem Holds.slot?_eq_first (h : a.Holds (Call.entries calls)) (hid : a.id? key = some slot) :
    a.slot? slot = Call.first? calls key := by
  have hfind := h.find_eq_first key
  rw [find, hid] at hfind
  rw [Call.first?]
  cases hfirst : calls.find? (·.key = key) with
  | none =>
    rw [hfirst] at hfind
    cases hslot : a.slot? slot with
    | none => rfl
    | some v => simp [hslot] at hfind
  | some c =>
    rw [hfirst] at hfind
    cases hslot : a.slot? slot with
    | none => simp [hslot] at hfind
    | some v => simpa [hslot] using hfind

/-- A key leads to a slot when it has come up and has its place there. -/
theorem Holds.id?_eq_some_iff (h : a.Holds (Call.entries calls)) (key : String) (slot : Nat) :
    a.id? key = some slot ↔ key ∈ Call.keys calls ∧ (Call.keys calls).idxOf key = slot := by
  by_cases hkey : key ∈ Call.keys calls
  · simp [h.id?_of_mem hkey, hkey]
  · simp [h.id?_of_notMem hkey, hkey]

/-- **Arenas keep the first values.** Whatever calls are made on an empty arena, it tells of them what they record. -/
theorem run_recorded (calls : List (Call α)) : Recorded calls := by
  obtain ⟨hholds, hslots⟩ := run_holds calls
  have hsize : (run empty calls).size = (Call.keys calls).length := by
    rw [size_eq_length_values, hholds.values_eq, List.length_map, Call.length_entries]
  constructor
  case contains =>
    intro key
    rw [hholds.contains_iff, ← Call.mem_keys_iff, ← Call.map_fst_entries, List.mem_map]
  case keys => exact hholds.map_fst_keys
  case nodup => exact Call.nodup_keys calls
  case size => exact hsize
  case find => exact hholds.find_eq_first
  case slot => exact fun key slot hid => hholds.slot?_eq_first hid
  case slots =>
    intro key key' slot hid hid'
    obtain ⟨hkey, rfl⟩ := (hholds.id?_eq_some_iff key slot).mp hid
    obtain ⟨hkey', hsame⟩ := (hholds.id?_eq_some_iff key' _).mp hid'
    exact (List.idxOf_inj hkey).mp hsame.symm
  case values => rw [hholds.values_eq, Call.map_snd_entries]; rfl
  case rejects =>
    rintro before c after rfl ⟨hcame, hc⟩
    obtain ⟨hbefore, -⟩ := run_holds before
    have hkey := (Call.mem_keys_iff before).mpr hcame
    rw [hc]
    exact call_tryAdd_of_taken (hbefore.id?_of_mem hkey)
  case answers =>
    rintro before c after rfl hnot
    obtain ⟨hbefore, -⟩ := run_holds before
    have hcame : c.key ∈ Call.keys (before ++ [c]) := (Call.mem_keys_iff _).mpr ⟨c, by simp, rfl⟩
    refine ⟨_, (hbefore.call c).1.trans (Call.answer_of_not_rejected hnot), ?_⟩
    rw [hholds.id?_eq_some_iff, List.append_cons, Call.idxOf_keys_append _ after hcame]
    exact ⟨(Call.keys_prefix _ after).subset hcame, rfl⟩
  case stays =>
    intro more key slot hid
    obtain ⟨hmore, -⟩ := run_holds (calls ++ more)
    obtain ⟨hkey, hplace⟩ := (hholds.id?_eq_some_iff key slot).mp hid
    have hid' : (run empty (calls ++ more)).id? key = some slot :=
      (hmore.id?_eq_some_iff key slot).mpr
        ⟨(Call.keys_prefix calls more).subset hkey, (Call.idxOf_keys_append calls more hkey).trans hplace⟩
    have hslot : (run empty (calls ++ more)).slot? slot = (run empty calls).slot? slot := by
      rw [hmore.slot?_eq_first hid', hholds.slot?_eq_first hid, Call.first?_append calls hkey]
    refine ⟨hid', hslot, ?_⟩
    rw [Arena.find, Arena.find, hid, hid']
    simp only [hslot]
  case json =>
    intro write
    obtain ⟨free, hlength, hjson⟩ := hholds.toJson_eq write
    refine ⟨free, _, hjson, ?_, hholds.isIndex⟩
    rw [← hlength, hsize]
    exact hslots

example : (run empty [.add "zeta" 1, .tryAdd "alpha" 2, .add "zeta" 3]).values = [1, 2] ∧
    ((run empty [.add "zeta" 1]).call (.tryAdd "zeta" 2)).1 = .rejected 2 := by
  decide

end Arena

end DataRequests
