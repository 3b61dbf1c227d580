import DataRequests.Json.Reader
import DataRequests.Proofs.JsonStrings
import Mathlib.Data.List.Forall2

/-!
# Readers and the tokens that they take

What a reader does with a text is said by tokens: `Reads read value ts` means that from any text that begins with the tokens `ts` the
reader gives the value, and leaves what stands behind them. There is one lemma for each step from item to item (`nextItem`,
`nextKey`, `readColon`), and from these one for each kind of container (`reads_items`, `reads_members`, `reads_content`), which asks
only that the items or members are read by the reader of the inner level.
-/

namespace DataRequests.Json

variable {ν α : Type}

/-- A reader takes some tokens from the front of any text and gives a value for them. -/
def Reads (read : Reader α) (value : α) (ts : List (List Char)) : Prop :=
  ∀ (us : List (List Char)) (cs : List Char), Spaced (ts ++ us) cs → ∃ rest, read cs = .ok (value, rest) ∧ Spaced us rest

/-! ## The first token of a value -/

/-- The digits of an integer begin with a digit or with a minus sign. -/
theorem digits_head (n : Int) : ∃ c t, digits n = c :: t ∧ (c.isDigit = true ∨ c = '-') := by
  cases n with
  | ofNat n =>
    obtain ⟨c, t, h⟩ := List.exists_cons_of_ne_nil (Nat.toDigits_ne_nil (n := n) (b := 10))
    have hdigit : c.isDigit = true := Nat.isDigit_of_mem_toDigits (by omega) (by omega) (h ▸ List.mem_cons_self)
    exact ⟨c, t, h, Or.inl hdigit⟩
  | negSucc n => exact ⟨'-', Nat.toDigits 10 (n + 1), rfl, Or.inr rfl⟩

/-- A value begins with a character that is not a blank and ends no array, and only `null` begins with its first letter. -/
theorem tokens_head (v : Json) :
    ∃ c t ts, v.tokens = (c :: t) :: ts ∧ isBlank c = false ∧ c ≠ ']' ∧ (v ≠ .null → c ≠ 'n') := by
  cases v with
  | null => exact ⟨'n', ['u', 'l', 'l'], [], by simp [tokens, scalar], rfl, by decide, fun h => absurd rfl h⟩
  | boolean b =>
    cases b with
    | false => exact ⟨'f', ['a', 'l', 's', 'e'], [], by simp [tokens, scalar], rfl, by decide, fun _ => by decide⟩
    | true => exact ⟨'t', ['r', 'u', 'e'], [], by simp [tokens, scalar], rfl, by decide, fun _ => by decide⟩
  | integer n =>
    obtain ⟨c, t, h, hc⟩ := digits_head n
    have hne (d : Char) (hd : d.isDigit = false ∧ d ≠ '-') : c ≠ d := by
      rintro rfl
      simp [hd] at hc
    refine ⟨c, t, [], by simp [tokens, scalar, h], ?_, hne ']' (by decide), fun _ => hne 'n' (by decide)⟩
    simp [isBlank, hne ' ' (by decide), hne '\n' (by decide), hne '\t' (by decide), hne '\r' (by decide)]
  | string s =>
    exact ⟨'"', s.toList.flatMap escape ++ ['"'], [], by simp [tokens, scalar, quote], rfl, by decide, fun _ => by decide⟩
  | array values => exact ⟨'[', [], itemTokens true values, by simp [tokens], rfl, by decide, fun _ => by decide⟩
  | object members => exact ⟨'\x7b', [], memberTokens true members, by simp [tokens], rfl, by decide, fun _ => by decide⟩

/-- Skipping the blanks in front of a value leaves its text. -/
theorem Spaced.skipBlanks_value {v : Json} {us : List (List Char)} {cs : List Char} (h : Spaced (v.tokens ++ us) cs) :
    ∃ c rest, Json.skipBlanks cs = c :: rest ∧ Spaced (v.tokens ++ us) (c :: rest) ∧ c ≠ ']' ∧ (v ≠ .null → c ≠ 'n') := by
  obtain ⟨c, t, ts, htokens, hblank, hclose, hnull⟩ := tokens_head v
  rw [htokens] at h ⊢
  obtain ⟨rest, hskip, hrest⟩ := Spaced.skipBlanks h hblank
  exact ⟨c, t ++ rest, hskip, hrest.token (c :: t), hclose, hnull⟩

/-! ## Scalars -/

theorem reads_text (s : String) : Reads readText (.string s) (Json.string s).tokens := by
  intro us cs hcs
  obtain ⟨rest, hskip, hrest⟩ := hcs.skipBlanks_quote
  exact ⟨rest, by simp [readText, hskip, readString_quoted, Except.map], hrest⟩

theorem reads_boolean (b : Bool) : Reads readBoolean (.boolean b) (Json.boolean b).tokens := by
  intro us cs hcs
  cases b with
  | false =>
    obtain ⟨rest, hskip, hrest⟩ := Spaced.skipBlanks hcs rfl
    exact ⟨rest, by simp [readBoolean, hskip, readWord, Except.map], hrest⟩
  | true =>
    obtain ⟨rest, hskip, hrest⟩ := Spaced.skipBlanks hcs rfl
    exact ⟨rest, by simp [readBoolean, hskip, readWord, Except.map], hrest⟩

/-! ## Values that may be absent -/

variable {schema : Schema ν} {item : Option (Shape ν → Reader Json)} {inner : Shape ν}

theorem reads_absent : Reads (readShape schema item (.optional inner)) .null Json.null.tokens := by
  intro us cs hcs
  obtain ⟨rest, hskip, hrest⟩ := Spaced.skipBlanks hcs rfl
  exact ⟨rest, by simp [readShape, hskip, readWord, Except.map], hrest⟩

theorem reads_present {v w : Json} (h : Reads (readShape schema item inner) v w.tokens) (hnull : w ≠ .null) :
    Reads (readShape schema item (.optional inner)) v w.tokens := by
  intro us cs hcs
  obtain ⟨c, start, hskip, hstart, -, hc⟩ := hcs.skipBlanks_value
  obtain ⟨rest, hread, hrest⟩ := h us _ hstart
  refine ⟨rest, ?_, hrest⟩
  simp only [readShape, hskip]
  split
  · next heq => exact absurd (List.cons.inj heq).1 (hc hnull)
  · exact hread

/-! ## From item to item -/

section Items

variable {us : List (List Char)} {cs : List Char}

/-- In front of an item, the next one starts there. -/
theorem nextItem_value {first : Bool} {v : Json} (h : Spaced ((if first then [] else [[',']]) ++ (v.tokens ++ us)) cs) :
    ∃ start, nextItem first cs = .ok (some start) ∧ Spaced (v.tokens ++ us) start := by
  cases first with
  | true =>
    obtain ⟨c, rest, hskip, hstart, hclose, -⟩ := Spaced.skipBlanks_value h
    exact ⟨c :: rest, by simp [nextItem, hskip, hclose], hstart⟩
  | false =>
    obtain ⟨rest, hskip, hrest⟩ := Spaced.skipBlanks h rfl
    obtain ⟨c, start, hskip', hstart, hclose, -⟩ := hrest.skipBlanks_value
    exact ⟨c :: start, by simp [nextItem, hskip, hskip', hclose], hstart⟩

/-- In front of the closing bracket, there is no next item, and the bracket closes the array. -/
theorem nextItem_close (first : Bool) (h : Spaced ([']'] :: us) cs) :
    nextItem first cs = .ok none ∧ ∃ rest, closeList cs = .ok rest ∧ Spaced us rest := by
  obtain ⟨rest, hskip, hrest⟩ := Spaced.skipBlanks h rfl
  exact ⟨by simp [nextItem, hskip], rest, by simp [closeList, hskip], hrest⟩

/-- In front of a member, its key is read. -/
theorem nextKey_member {first : Bool} {key : String}
    (h : Spaced ((if first then [] else [[',']]) ++ (quote key :: us)) cs) :
    ∃ rest, nextKey first cs = .ok (some key, rest) ∧ Spaced us rest := by
  cases first with
  | true =>
    obtain ⟨rest, hskip, hrest⟩ := Spaced.skipBlanks_quote h
    exact ⟨rest, by simp [nextKey, nextKey.key, hskip, readString_quoted, Except.map], hrest⟩
  | false =>
    obtain ⟨rest, hskip, hrest⟩ := Spaced.skipBlanks h rfl
    obtain ⟨rest', hskip', hrest'⟩ := hrest.skipBlanks_quote
    exact ⟨rest', by simp [nextKey, nextKey.key, hskip, hskip', readString_quoted, Except.map], hrest'⟩

/-- In front of the closing brace, there is no next key. -/
theorem nextKey_close (first : Bool) (h : Spaced (['\x7d'] :: us) cs) :
    ∃ rest, nextKey first cs = .ok (none, rest) ∧ Spaced us rest := by
  obtain ⟨rest, hskip, hrest⟩ := Spaced.skipBlanks h rfl
  exact ⟨rest, by simp [nextKey, hskip], hrest⟩

/-- Behind a key, the colon is passed over. -/
theorem Reads.afterColon {read : Reader α} {value : α} {ts : List (List Char)} (h : Reads read value ts) :
    Reads (readAfterColon read) value ([':'] :: ts) := by
  intro us cs hcs
  obtain ⟨rest, hskip, hrest⟩ := Spaced.skipBlanks hcs rfl
  obtain ⟨rest', hread, hrest'⟩ := h us rest hrest
  exact ⟨rest', by simp [readAfterColon, readColon, hskip, hread], hrest'⟩

end Items

/-! ## Arrays -/

/-- An array is written with more characters than it has items. -/
theorem length_lt_itemTokens (first : Bool) (values : List Json) : values.length < (itemTokens first values).flatten.length := by
  induction values generalizing first with
  | nil => simp [itemTokens]
  | cons v rest ih =>
    obtain ⟨c, t, ts, htokens, -⟩ := tokens_head v
    have hrest := ih false
    simp only [itemTokens, htokens, List.flatten_append, List.flatten_cons, List.length_append, List.length_cons]
    omega

/-- The items of an array are read one by one, when each of them is. -/
theorem reads_items {item : Reader Json} {values written : List Json}
    (h : List.Forall₂ (fun v w => Reads item v w.tokens) values written) {fuel : Nat} (hfuel : written.length < fuel)
    (first : Bool) : Reads (readItems item fuel first) values (itemTokens first written) := by
  induction h generalizing fuel first with
  | nil =>
    intro us cs hcs
    obtain ⟨fuel, rfl⟩ : ∃ n, fuel = n + 1 := ⟨fuel - 1, by omega⟩
    obtain ⟨hnext, rest, hclose, hrest⟩ := nextItem_close first hcs
    exact ⟨rest, by simp [readItems, hnext, hclose, Except.map], hrest⟩
  | @cons v w values written hv _ ih =>
    intro us cs hcs
    obtain ⟨fuel, rfl⟩ : ∃ n, fuel = n + 1 := ⟨fuel - 1, by omega⟩
    have htail := ih (Nat.lt_of_succ_lt_succ hfuel) false
    simp only [itemTokens, List.append_assoc] at hcs
    obtain ⟨start, hnext, hstart⟩ := nextItem_value hcs
    obtain ⟨rest, hitem, hrest⟩ := hv _ start hstart
    obtain ⟨rest', hitems, hrest'⟩ := htail us rest hrest
    exact ⟨rest', by simp [readItems, hnext, hitem, hitems, Except.map], hrest'⟩

/-- An array whose items are read is read. -/
theorem reads_array {item : Shape ν → Reader Json} {inner : Shape ν} {values written : List Json}
    (h : List.Forall₂ (fun v w => Reads (item inner) v w.tokens) values written) (expected : String) :
    Reads (readShape schema (some item) (.list expected inner)) (.array values) (Json.array written).tokens := by
  intro us cs hcs
  obtain ⟨start, hskip, hstart⟩ : ∃ start, skipBlanks cs = '[' :: start ∧ Spaced (itemTokens true written ++ us) start :=
    Spaced.skipBlanks hcs rfl
  have hlength := Spaced.length_le hstart
  have hcount := length_lt_itemTokens true written
  simp only [List.flatten_append, List.length_append] at hlength
  obtain ⟨rest, hitems, hrest⟩ := reads_items h (show written.length < start.length + 1 by omega) true us start hstart
  exact ⟨rest, by simp [readShape, hskip, hitems, Except.map], hrest⟩

/-! ## Names in a schema -/

/-- The names of the fields of a record, or of the variants of a choice. -/
def Part.names : Part ν → List String
  | .record r => r.fields.map (·.name)
  | .choice variants => variants.map (·.name)

/-- In a list without repeated names, each entry is the first of its name. -/
theorem find?_name {α : Type} {nameOf : α → String} {l : List α} (hnodup : (l.map nameOf).Nodup) {a : α} (ha : a ∈ l) :
    l.find? (nameOf · = nameOf a) = some a := by
  induction l with
  | nil => cases ha
  | cons b l ih =>
    rw [List.map_cons, List.nodup_cons] at hnodup
    rcases List.mem_cons.mp ha with rfl | ha
    · simp
    · have hne : nameOf b ≠ nameOf a := fun he => hnodup.1 (he ▸ List.mem_map_of_mem ha)
      rw [List.find?_cons_of_neg (by simpa using hne)]
      exact ih hnodup.2 ha

/-! ## Records -/

/-- An object is written with more characters than it has members. -/
theorem length_lt_memberTokens (first : Bool) (members : List (String × Json)) :
    members.length < (memberTokens first members).flatten.length := by
  induction members generalizing first with
  | nil => simp [memberTokens]
  | cons m rest ih =>
    have hrest := ih false
    simp only [memberTokens, quote, List.flatten_append, List.flatten_cons, List.length_append, List.length_cons]
    omega

/-- The first member with a name, of two lists one after the other. -/
theorem member?_append (name : String) (ms ms' : List (String × Json)) :
    member? name (ms ++ ms') = (member? name ms).or (member? name ms') := by
  induction ms with
  | nil => rfl
  | cons m ms ih =>
    simp only [List.cons_append, member?]
    split
    · rfl
    · exact ih

/-- A name that no member has is not found. -/
theorem member?_eq_none {name : String} {ms : List (String × Json)} (h : name ∉ ms.map (·.1)) : member? name ms = none := by
  induction ms with
  | nil => rfl
  | cons m ms ih =>
    simp only [List.map_cons, List.mem_cons, not_or] at h
    rw [member?, if_neg (Ne.symm h.1)]
    exact ih h.2

/-- Where no name stands twice, each member is found by its name. -/
theorem member?_eq_some {name : String} {v : Json} {ms : List (String × Json)} (hnodup : (ms.map (·.1)).Nodup)
    (h : (name, v) ∈ ms) : member? name ms = some v := by
  induction ms with
  | nil => cases h
  | cons m ms ih =>
    simp only [List.map_cons, List.nodup_cons] at hnodup
    rcases List.mem_cons.mp h with rfl | h
    · simp [member?]
    · have hne : m.1 ≠ name := fun he => hnodup.1 (he ▸ List.mem_map_of_mem h)
      rw [member?, if_neg hne]
      exact ih hnodup.2 h

/-- The members of a record are read in the order in which they stand, each as its field says, and the record is completed from
them. -/
theorem reads_members {item : Shape ν → Reader Json} {r : Record ν} {read written : List (String × Json)}
    (h : List.Forall₂
      (fun m w => m.1 = w.1 ∧ ∃ f, r.fields.find? (·.name = w.1) = some f ∧ Reads (item f.shape) m.2 w.2.tokens) read written)
    {fuel : Nat} (hfuel : written.length < fuel) (first : Bool) (seen : List (String × Json))
    (hnodup : ((seen ++ read).map (·.1)).Nodup) {members : List (String × Json)}
    (hcomplete : completeMembers (seen ++ read) r.fields = .ok members) :
    Reads (readMembers item r fuel first seen) members (memberTokens first written) := by
  induction h generalizing fuel first seen with
  | nil =>
    intro us cs hcs
    obtain ⟨fuel, rfl⟩ : ∃ n, fuel = n + 1 := ⟨fuel - 1, by omega⟩
    obtain ⟨rest, hnext, hrest⟩ := nextKey_close first hcs
    rw [List.append_nil] at hcomplete
    exact ⟨rest, by simp [readMembers, hnext, hcomplete, Except.map], hrest⟩
  | @cons m w read written hm _ ih =>
    obtain ⟨key, v⟩ := m
    obtain ⟨_, w⟩ := w
    obtain ⟨rfl, f, hfind, hread⟩ := hm
    intro us cs hcs
    obtain ⟨fuel, rfl⟩ : ∃ n, fuel = n + 1 := ⟨fuel - 1, by omega⟩
    have happend : seen ++ [(key, v)] ++ read = seen ++ (key, v) :: read := by simp
    have htail := ih (Nat.lt_of_succ_lt_succ hfuel) false (seen ++ [(key, v)]) (happend ▸ hnodup) (happend ▸ hcomplete)
    have hnew : member? key seen = none := by
      apply member?_eq_none
      rw [List.map_append, List.map_cons, List.nodup_append] at hnodup
      exact fun hmem => hnodup.2.2 key hmem key List.mem_cons_self rfl
    simp only [memberTokens, List.append_assoc, List.cons_append] at hcs
    obtain ⟨rest, hnext, hrest⟩ := nextKey_member hcs
    obtain ⟨rest', hvalue, hrest'⟩ := hread.afterColon _ rest hrest
    obtain ⟨rest'', hmembers, hrest''⟩ := htail us rest' hrest'
    exact ⟨rest'', by simp [readMembers, hnext, hfind, hnew, hvalue, hmembers], hrest''⟩

/-- A record is read from the members that stand in an object, when it can be completed from them. -/
theorem reads_record {item : Shape ν → Reader Json} {r : Record ν} {read written : List (String × Json)}
    (h : List.Forall₂
      (fun m w => m.1 = w.1 ∧ ∃ f, r.fields.find? (·.name = w.1) = some f ∧ Reads (item f.shape) m.2 w.2.tokens) read written)
    (hnodup : (read.map (·.1)).Nodup) {members : List (String × Json)} (hcomplete : completeMembers read r.fields = .ok members) :
    Reads (readRecord (some item) r) (.object members) (Json.object written).tokens := by
  intro us cs hcs
  obtain ⟨start, hskip, hstart⟩ : ∃ start, skipBlanks cs = '\x7b' :: start ∧ Spaced (memberTokens true written ++ us) start :=
    Spaced.skipBlanks hcs rfl
  have hlength := Spaced.length_le hstart
  have hcount := length_lt_memberTokens true written
  simp only [List.flatten_append, List.length_append] at hlength
  obtain ⟨rest, hmembers, hrest⟩ :=
    reads_members h (show written.length < start.length + 1 by omega) true [] hnodup hcomplete us start hstart
  exact ⟨rest, by simp [readRecord, hskip, hmembers, Except.map], hrest⟩

/-- A record is complete when each of its fields has been read or may be absent. -/
theorem completeMembers_eq_ok {seen : List (String × Json)} {fields : List (Field ν)} {members : List (String × Json)}
    (h : List.Forall₂ (fun m f => m.1 = f.name ∧ (member? f.name seen).or f.absence.member = some m.2) members fields) :
    completeMembers seen fields = .ok members := by
  induction h with
  | nil => rfl
  | @cons m f members fields hm _ ih =>
    obtain ⟨_, v⟩ := m
    obtain ⟨rfl, hvalue⟩ := hm
    simp only [completeMembers, hvalue, ih, Except.map]

/-! ## Choices -/

/-- The shape of what goes with the name of a variant. -/
def Content.inner? : Content ν → Option (Shape ν)
  | .none => Option.none
  | .value shape => some shape
  | .fields record => some (.part record)

/-- A variant without content is read from its name. -/
theorem reads_bare {item : Option (Shape ν → Reader Json)} {variants : List (Variant ν)} {x : Variant ν}
    (hfind : variants.find? (·.name = x.name) = some x) (hcontent : x.content = .none) :
    Reads (readChoice item variants) (.string x.name) (Json.string x.name).tokens := by
  intro us cs hcs
  obtain ⟨rest, hskip, hrest⟩ := hcs.skipBlanks_quote
  refine ⟨rest, ?_, hrest⟩
  simp [readChoice, hskip, readString_quoted, findVariant, hfind, bareVariant, hcontent, Except.map, Except.bind]

/-- A variant with content is read from an object whose only key is its name. -/
theorem reads_content {item : Shape ν → Reader Json} {variants : List (Variant ν)} {x : Variant ν} {inner : Shape ν}
    (hfind : variants.find? (·.name = x.name) = some x) (hinner : x.content.inner? = some inner) {v w : Json}
    (h : Reads (item inner) v w.tokens) :
    Reads (readChoice (some item) variants) (.object [(x.name, v)]) (Json.object [(x.name, w)]).tokens := by
  have hcontent : Reads (readContent item x) (.object [(x.name, v)]) w.tokens := by
    intro us cs hcs
    obtain ⟨rest, hread, hrest⟩ := h us cs hcs
    refine ⟨rest, ?_, hrest⟩
    cases hx : x.content with
    | none => simp [Content.inner?, hx] at hinner
    | value shape =>
      obtain rfl : shape = inner := by simpa [Content.inner?, hx] using hinner
      simp [readContent, hx, hread, Except.map]
    | fields record =>
      obtain rfl : Shape.part record = inner := by simpa [Content.inner?, hx] using hinner
      simp [readContent, hx, hread, Except.map]
  intro us cs hcs
  simp only [tokens, memberTokens, if_true, List.nil_append, List.cons_append, List.append_assoc] at hcs
  obtain ⟨rest₁, hskip₁, hrest₁⟩ := Spaced.skipBlanks hcs rfl
  obtain ⟨rest₂, hskip₂, hrest₂⟩ := hrest₁.skipBlanks_quote
  obtain ⟨rest₃, hread, hrest₃⟩ := hcontent.afterColon _ rest₂ hrest₂
  obtain ⟨rest₄, hskip₄, hrest₄⟩ := Spaced.skipBlanks hrest₃ rfl
  refine ⟨rest₄, ?_, hrest₄⟩
  simp [readChoice, hskip₁, hskip₂, readString_quoted, findVariant, hfind, hread, closeVariant, hskip₄, Except.map]

/-! ## Parts -/

theorem readShape_record {name : ν} {r : Record ν} (h : schema name = .record r) :
    readShape schema item (.part name) = readRecord item r := by
  funext cs
  simp [readShape, h]

theorem readShape_choice {name : ν} {variants : List (Variant ν)} (h : schema name = .choice variants) :
    readShape schema item (.part name) = readChoice item variants := by
  funext cs
  simp [readShape, h]

end DataRequests.Json
