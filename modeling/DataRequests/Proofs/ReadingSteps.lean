import DataRequests.Proofs.ShapeLookahead
import Mathlib.Logic.Relation

/-!
# Where reading is in a text

Reading a value comes to the values inside it one after another. A `Stage` says what is being read, a `Step` goes from one stage to
the next one that reading the text comes to, and a `Run` is any number of steps. What was passed on the way does not depend on the text
from the last stage on: for any text in its place, what is read from the first stage is what is read from the last one, and what is
made of it then (`Run.continues`).
-/

namespace DataRequests.Json

variable {ν α : Type}

/-! ## The number of steps -/

/-- What is left behind a value is shorter than the text. -/
theorem Takes.length_lt {read : Reader α} (h : Takes 1 read) {cs rest : List Char} {v : α} (hread : read cs = .ok (v, rest)) :
    rest.length < cs.length := by
  obtain ⟨p, hp, rfl, -⟩ := h cs v rest hread
  rw [List.length_append]
  omega

/-- The items of an array are read alike in any number of steps that is larger than the length of the text. -/
theorem readItems_fuel {item : Reader Json} (hitem : Takes 1 item) {fuel fuel' : Nat} {first : Bool} {cs : List Char}
    (h : cs.length < fuel) (h' : cs.length < fuel') : readItems item fuel first cs = readItems item fuel' first cs := by
  induction fuel generalizing fuel' first cs with
  | zero => omega
  | succ fuel ih =>
    obtain ⟨fuel', rfl⟩ := Nat.exists_eq_succ_of_ne_zero (by omega : fuel' ≠ 0)
    unfold readItems
    split
    · rfl
    · rfl
    · next hstart =>
      split
      · rfl
      · next hvalue =>
        obtain ⟨p, q, hq, rfl, -⟩ := exists_of_item hitem hstart hvalue
        simp only [List.length_append] at h h'
        exact congrArg (Except.map _) (ih (by omega) (by omega))

/-- What is done with a key of a record, or behind its last member; `next` reads the members behind this one. -/
def readMember (item : Shape ν → Reader Json) (r : Record ν) (next : List (String × Json) → Reader (List (String × Json)))
    (seen : List (String × Json)) : Option String → Reader (List (String × Json))
  | none, rest => (completeMembers seen r.fields).map (·, rest)
  | some key, rest =>
    match r.fields.find? (·.name = key) with
    | none =>
      if r.strict then .error (.unknownField key (r.fields.map (·.name)))
      else
        match readAfterColon skipValue rest with
        | .error e => .error e
        | .ok (_, rest) => next seen rest
    | some field =>
      if (member? key seen).isSome then .error (.duplicateField key)
      else
        match readAfterColon (item field.shape) rest with
        | .error e => .error e
        | .ok (value, rest) => next (seen ++ [(key, value)]) rest

/-- Members are read key by key. -/
theorem readMembers_succ (item : Shape ν → Reader Json) (r : Record ν) (fuel : Nat) (first : Bool) (seen : List (String × Json))
    (cs : List Char) : readMembers item r (fuel + 1) first seen cs =
      (nextKey first cs).bind fun (key, rest) => readMember item r (readMembers item r fuel false) seen key rest := by
  rw [readMembers]
  cases nextKey first cs with
  | error e => rfl
  | ok found =>
    obtain ⟨key, rest⟩ := found
    cases key <;> rfl

/-- What is done with a key is the same when the members behind it are read alike. -/
theorem readMember_congr {item : Shape ν → Reader Json} (hitem : ∀ s, Takes 1 (item s)) {r : Record ν}
    {next next' : List (String × Json) → Reader (List (String × Json))} {rest : List Char}
    (h : ∀ seen more, more.length < rest.length → next seen more = next' seen more) (seen : List (String × Json))
    (key : Option String) : readMember item r next seen key rest = readMember item r next' seen key rest := by
  cases key with
  | none => rfl
  | some key =>
    simp only [readMember]
    split
    · split
      · rfl
      · split
        · rfl
        · next hskip => exact h _ _ (takes_skipValue.afterColon.length_lt hskip)
    · next field _ =>
      split
      · rfl
      · split
        · rfl
        · next hvalue => exact h _ _ ((hitem field.shape).afterColon.length_lt hvalue)

/-- The members of an object are read alike in any number of steps that is larger than the length of the text. -/
theorem readMembers_fuel {item : Shape ν → Reader Json} (hitem : ∀ s, Takes 1 (item s)) (r : Record ν) {fuel fuel' : Nat}
    {first : Bool} {seen : List (String × Json)} {cs : List Char} (h : cs.length < fuel) (h' : cs.length < fuel') :
    readMembers item r fuel first seen cs = readMembers item r fuel' first seen cs := by
  induction fuel generalizing fuel' first seen cs with
  | zero => omega
  | succ fuel ih =>
    obtain ⟨fuel', rfl⟩ := Nat.exists_eq_succ_of_ne_zero (by omega : fuel' ≠ 0)
    rw [readMembers_succ, readMembers_succ]
    cases hkey : nextKey first cs with
    | error e => rfl
    | ok found =>
      obtain ⟨key, rest⟩ := found
      have hshorter := (takes_nextKey first).length_lt hkey
      refine readMember_congr hitem (fun seen more hmore => ?_) seen key
      exact ih (by omega) (by omega)

/-! ## Stages -/

/-- What is being read, where `n` levels of containers are still free inside it: a value of a shape, or what is left of the items of an
array, of the fields of a record by position, or of the members of a record, of which `seen` have been read. -/
inductive Stage (ν : Type) where
  | value (n : Nat) (s : Shape ν)
  | items (n : Nat) (s : Shape ν) (first : Bool)
  | positions (n : Nat) (r : Record ν) (fields : List (Field ν)) (index : Nat)
  | members (n : Nat) (r : Record ν) (first : Bool) (seen : List (String × Json))

namespace Stage

/-- What is handed on at a stage. -/
abbrev Result : Stage ν → Type
  | .value .. => Json
  | .items .. => List Json
  | .positions .. => List (String × Json)
  | .members .. => List (String × Json)

/-- The reader of a stage. -/
def read (schema : Schema ν) : (stage : Stage ν) → Reader stage.Result
  | .value n s => readUnder schema n s
  | .items n s first => fun cs => readItems (readUnder schema n s) (cs.length + 1) first cs
  | .positions n r fields index => readPositions (readUnder schema n) r fields index
  | .members n r first seen => fun cs => readMembers (readUnder schema n) r (cs.length + 1) first seen cs

variable {schema : Schema ν} {n : Nat} {s : Shape ν} {r : Record ν} {first : Bool} {seen : List (String × Json)}
  {cs start rest : List Char}

/-- A list is read from its next item on. -/
theorem read_items_of_some (h : nextItem first cs = .ok (some start)) : read schema (.items n s first) cs =
    (readUnder schema n s start).bind fun (v, rest) =>
      (read schema (.items n s false) rest).map fun (vs, rest) => (v :: vs, rest) := by
  show readItems (readUnder schema n s) (cs.length + 1) first cs = _
  rw [readItems, h]
  cases hvalue : readUnder schema n s start with
  | error e => simp only [hvalue, Except.bind]
  | ok found =>
    obtain ⟨p, q, hq, rfl, -⟩ := exists_of_item (takes_under schema n s) h hvalue
    simp only [hvalue, Except.bind]
    refine congrArg (Except.map _) (readItems_fuel (takes_under schema n s) ?_ (Nat.lt_succ_self _))
    simp only [List.length_append]
    omega

/-- The members are read behind the next key, wherever it stands. -/
theorem read_members (n : Nat) (r : Record ν) (first : Bool) (seen : List (String × Json)) (cs : List Char) :
    read schema (.members n r first seen) cs = (nextKey first cs).bind fun (key, rest) =>
      readMember (readUnder schema n) r (fun seen => read schema (.members n r false seen)) seen key rest := by
  show readMembers (readUnder schema n) r (cs.length + 1) first seen cs = _
  rw [readMembers_succ]
  cases hkey : nextKey first cs with
  | error e => rfl
  | ok found =>
    obtain ⟨key, rest⟩ := found
    have hshorter := (takes_nextKey first).length_lt hkey
    show readMember (readUnder schema n) r (readMembers (readUnder schema n) r cs.length false) seen key rest =
      readMember (readUnder schema n) r (fun seen => read schema (.members n r false seen)) seen key rest
    refine readMember_congr (takes_under schema n) (fun seen more hmore => ?_) seen key
    exact readMembers_fuel (takes_under schema n) r (by omega) (by omega)

/-- A known member is read and then those behind it. -/
theorem read_members_known {key : String} {field : Field ν} (hkey : nextKey first cs = .ok (some key, rest))
    (hfield : r.fields.find? (·.name = key) = some field) (hnew : member? key seen = none) (hcolon : readColon rest = .ok start) :
    read schema (.members n r first seen) cs = (readUnder schema n field.shape start).bind fun (v, rest) =>
      read schema (.members n r false (seen ++ [(key, v)])) rest := by
  rw [read_members, hkey]
  simp only [Except.bind, readMember, hfield, hnew, readAfterColon, hcolon, Option.isSome_none, Bool.false_eq_true, if_false]
  cases readUnder schema n field.shape start <;> rfl

/-- A member whose key is not known is passed over in a record that is not strict. -/
theorem read_members_unknown {key : String} {tail : List Char} (hkey : nextKey first cs = .ok (some key, rest))
    (hfield : r.fields.find? (·.name = key) = none) (hlenient : r.strict = false) (hcolon : readColon rest = .ok start)
    (hskip : skipValue start = .ok ((), tail)) :
    read schema (.members n r first seen) cs = read schema (.members n r false seen) tail := by
  rw [read_members, hkey]
  simp only [Except.bind, readMember, hfield, hlenient, readAfterColon, hcolon, hskip, Bool.false_eq_true, if_false]

/-- It is an error in a strict one. -/
theorem read_members_strict {key : String} (hkey : nextKey first cs = .ok (some key, rest))
    (hfield : r.fields.find? (·.name = key) = none) (hstrict : r.strict = true) :
    read schema (.members n r first seen) cs = .error (.unknownField key (r.fields.map (·.name))) := by
  rw [read_members, hkey]
  simp only [Except.bind, readMember, hfield, hstrict, if_true]

/-- One text goes on like another one, as far as a stage can tell: a value is told by its first character. -/
def Fits : Stage ν → List Char → List Char → Prop
  | .value .., cs, new => new.head? = cs.head?
  | _, cs, new => Meets cs new

/-- A text that goes on with the same character may stand in the place of another. -/
theorem fits_of_head (stage : Stage ν) {cs new : List Char} (h : new.head? = cs.head?) : stage.Fits cs new := by
  cases stage with
  | value => exact h
  | items => exact .inl h
  | positions => exact .inl h
  | members => exact .inl h

/-- What may stand in the place of a text goes on like it. -/
theorem Fits.meets {stage : Stage ν} {cs new : List Char} (h : stage.Fits cs new) : Meets cs new := by
  cases stage with
  | value => exact .inl h
  | items => exact h
  | positions => exact h
  | members => exact h

/-- Texts with the same part in front may stand for each other. -/
theorem fits_append (stage : Stage ν) {p : List Char} (hp : 1 ≤ p.length) (cs new : List Char) : stage.Fits (p ++ cs) (p ++ new) := by
  obtain ⟨c, p, rfl⟩ := List.exists_cons_of_ne_nil (List.ne_nil_of_length_pos hp)
  exact stage.fits_of_head rfl

/-- So may texts that go on alike behind a part, which may be empty. -/
theorem fits_append_of_head (stage : Stage ν) (p : List Char) {cs new : List Char} (h : new.head? = cs.head?) :
    stage.Fits (p ++ cs) (p ++ new) := by
  cases p with
  | nil => exact stage.fits_of_head h
  | cons c p => exact stage.fits_of_head rfl

end Stage

/-! ## Steps -/

/-- Reading at one stage comes to another one: it enters what stands there or passes it. Pairs and tables, of which documents have none,
are not entered. -/
inductive Step (schema : Schema ν) : Stage ν × List Char → Stage ν × List Char → Prop where
  | present {n : Nat} {s : Shape ν} {cs rest : List Char} {c : Char} (h : skipBlanks cs = c :: rest) (hc : c ≠ 'n') :
      Step schema (.value n (.optional s), cs) (.value n s, c :: rest)
  | list {n : Nat} {s : Shape ν} {cs rest : List Char} (expected : String) (h : skipBlanks cs = '[' :: rest) :
      Step schema (.value (n + 1) (.list expected s), cs) (.items n s true, rest)
  | item {n : Nat} {s : Shape ν} {first : Bool} {cs start : List Char} (h : nextItem first cs = .ok (some start)) :
      Step schema (.items n s first, cs) (.value n s, start)
  | pastItem {n : Nat} {s : Shape ν} {first : Bool} {cs start rest : List Char} {v : Json}
      (h : nextItem first cs = .ok (some start)) (hvalue : readUnder schema n s start = .ok (v, rest)) :
      Step schema (.items n s first, cs) (.items n s false, rest)
  | object {n : Nat} {name : ν} {r : Record ν} {cs rest : List Char} (hpart : schema name = .record r)
      (h : skipBlanks cs = '\x7b' :: rest) : Step schema (.value (n + 1) (.part name), cs) (.members n r true [], rest)
  | array {n : Nat} {name : ν} {r : Record ν} {cs rest : List Char} (hpart : schema name = .record r)
      (hpositional : r.positional = true) (h : skipBlanks cs = '[' :: rest) :
      Step schema (.value (n + 1) (.part name), cs) (.positions n r r.fields 0, rest)
  | position {n : Nat} {r : Record ν} {f : Field ν} {fields : List (Field ν)} {index : Nat} {cs start : List Char}
      (h : nextItem (index = 0) cs = .ok (some start)) :
      Step schema (.positions n r (f :: fields) index, cs) (.value n f.shape, start)
  | pastPosition {n : Nat} {r : Record ν} {f : Field ν} {fields : List (Field ν)} {index : Nat} {cs start rest : List Char}
      {v : Json} (h : nextItem (index = 0) cs = .ok (some start)) (hvalue : readUnder schema n f.shape start = .ok (v, rest)) :
      Step schema (.positions n r (f :: fields) index, cs) (.positions n r fields (index + 1), rest)
  | member {n : Nat} {r : Record ν} {first : Bool} {seen : List (String × Json)} {cs rest start : List Char} {key : String}
      {field : Field ν} (h : nextKey first cs = .ok (some key, rest)) (hfield : r.fields.find? (·.name = key) = some field)
      (hnew : member? key seen = none) (hcolon : readColon rest = .ok start) :
      Step schema (.members n r first seen, cs) (.value n field.shape, start)
  | pastMember {n : Nat} {r : Record ν} {first : Bool} {seen : List (String × Json)} {cs rest start tail : List Char}
      {key : String} {field : Field ν} {v : Json} (h : nextKey first cs = .ok (some key, rest))
      (hfield : r.fields.find? (·.name = key) = some field) (hnew : member? key seen = none)
      (hcolon : readColon rest = .ok start) (hvalue : readUnder schema n field.shape start = .ok (v, tail)) :
      Step schema (.members n r first seen, cs) (.members n r false (seen ++ [(key, v)]), tail)
  | pastUnknown {n : Nat} {r : Record ν} {first : Bool} {seen : List (String × Json)} {cs rest start tail : List Char}
      {key : String} (h : nextKey first cs = .ok (some key, rest)) (hfield : r.fields.find? (·.name = key) = none)
      (hlenient : r.strict = false) (hcolon : readColon rest = .ok start) (hskip : skipValue start = .ok ((), tail)) :
      Step schema (.members n r first seen, cs) (.members n r false seen, tail)
  | content {n : Nat} {name : ν} {variants : List (Variant ν)} {given : String} {x : Variant ν} {inner : Shape ν}
      {cs inside quoted rest start : List Char} (hpart : schema name = .choice variants) (h : skipBlanks cs = '\x7b' :: inside)
      (hquote : skipBlanks inside = '"' :: quoted) (hname : readString quoted = .ok (given, rest))
      (hvariant : findVariant variants given = .ok x) (hinner : x.content.inner? = some inner)
      (hcolon : readColon rest = .ok start) :
      Step schema (.value (n + 1) (.part name), cs) (.value n inner, start)

/-- Reading comes from one stage to another one in any number of steps. -/
abbrev Run (schema : Schema ν) : Stage ν × List Char → Stage ν × List Char → Prop :=
  Relation.ReflTransGen (Step schema)

/-- Whatever fits in the place of the text at the second stage, what is read at the first one is what is read there, and what is made
of it then. -/
def Continues (schema : Schema ν) (a b : Stage ν × List Char) : Prop :=
  ∃ (p : List Char) (k : b.1.Result × List Char → Except ReadError (a.1.Result × List Char)), a.2 = p ++ b.2 ∧
    ∀ new, b.1.Fits b.2 new → a.1.Fits a.2 (p ++ new) ∧ a.1.read schema (p ++ new) = (b.1.read schema new).bind k

variable {schema : Schema ν}

/-- Reading goes on from where it is. -/
theorem Continues.refl (a : Stage ν × List Char) : Continues schema a a := by
  refine ⟨[], .ok, rfl, fun new hfits => ⟨hfits, ?_⟩⟩
  rw [List.nil_append]
  cases a.1.read schema new <;> rfl

/-- Reading goes on over two stretches of a text as over one. -/
theorem Continues.trans {a b c : Stage ν × List Char} (hab : Continues schema a b) (hbc : Continues schema b c) :
    Continues schema a c := by
  obtain ⟨p, k, ha, hread⟩ := hab
  obtain ⟨q, l, hb, hread'⟩ := hbc
  refine ⟨p ++ q, fun found => (l found).bind k, by rw [ha, hb, List.append_assoc], fun new hfits => ?_⟩
  obtain ⟨hfits', hl⟩ := hread' new hfits
  obtain ⟨hfits'', hk⟩ := hread (q ++ new) hfits'
  rw [List.append_assoc]
  refine ⟨hfits'', hk.trans ?_⟩
  rw [hl]
  cases c.1.read schema new <;> rfl

section

variable {a b : Stage ν} {cs start rest : List Char}
  {k : b.Result × List Char → Except ReadError (a.Result × List Char)}

/-- Entering a container. -/
theorem continues_inside {opening : Char} (h : skipBlanks cs = opening :: rest)
    (hread : ∀ {cs rest}, skipBlanks cs = opening :: rest → a.read schema cs = (b.read schema rest).bind k) :
    Continues schema (a, cs) (b, rest) := by
  obtain ⟨ws, rfl, hblanks⟩ := exists_of_skipBlanks h
  refine ⟨ws ++ [opening], k, by simp, fun new _ => ⟨?_, ?_⟩⟩
  · have hfits := a.fits_append (p := ws ++ [opening]) (by simp) rest new
    rwa [List.append_assoc, List.singleton_append] at hfits
  · rw [List.append_assoc]
    exact hread (hblanks new)

/-- Coming to an item. -/
theorem continues_item {n : Nat} {s : Shape ν} {first : Bool}
    {k : Json × List Char → Except ReadError (a.Result × List Char)} (h : nextItem first cs = .ok (some start))
    (hread : ∀ {cs start}, nextItem first cs = .ok (some start) → a.read schema cs = (readUnder schema n s start).bind k) :
    Continues schema (a, cs) (.value n s, start) := by
  obtain ⟨p, c, more, rfl, rfl, hnext⟩ := exists_of_nextItem h
  refine ⟨p, k, rfl, fun new hfits => ⟨a.fits_append_of_head p hfits, ?_⟩⟩
  obtain ⟨more, rfl⟩ := List.head?_eq_some_iff.mp hfits
  exact hread (hnext more)

/-- Passing an item. -/
theorem continues_pastItem {n : Nat} {s : Shape ν} {first : Bool} {v : Json} (h : nextItem first cs = .ok (some start))
    (hvalue : readUnder schema n s start = .ok (v, rest))
    (hread : ∀ {cs start rest}, nextItem first cs = .ok (some start) → readUnder schema n s start = .ok (v, rest) →
      a.read schema cs = (b.read schema rest).bind k) : Continues schema (a, cs) (b, rest) := by
  obtain ⟨p, q, hq, rfl, hnew⟩ := exists_of_item (takes_under schema n s) h hvalue
  refine ⟨p ++ q, k, by simp, fun new hfits => ⟨?_, ?_⟩⟩
  · have hfits := a.fits_append (p := p ++ q) (by simp; omega) rest new
    rwa [List.append_assoc] at hfits
  · obtain ⟨hnext, hvalue'⟩ := hnew new hfits.meets
    rw [List.append_assoc]
    exact hread hnext hvalue'

/-- Coming to the value of a member. -/
theorem continues_member {n : Nat} {s : Shape ν} {first : Bool} {key : String}
    {k : Json × List Char → Except ReadError (a.Result × List Char)} (h : nextKey first cs = .ok (some key, rest))
    (hcolon : readColon rest = .ok start)
    (hread : ∀ {cs rest start}, nextKey first cs = .ok (some key, rest) → readColon rest = .ok start →
      a.read schema cs = (readUnder schema n s start).bind k) : Continues schema (a, cs) (.value n s, start) := by
  obtain ⟨p, hp, rfl, hkey⟩ := takes_nextKey _ _ _ _ h
  obtain ⟨q, hq, rfl, hcolon'⟩ := marks_readColon _ _ hcolon
  refine ⟨p ++ q, k, by simp, fun new hfits => ⟨?_, ?_⟩⟩
  · have hfits := a.fits_append (p := p ++ q) (by simp; omega) start new
    rwa [List.append_assoc] at hfits
  · rw [List.append_assoc]
    exact hread (hkey _ (hfits.meets.append q)) (hcolon' new)

/-- Passing a member. -/
theorem continues_pastMember {first : Bool} {key : String} {value : Reader α} {v : α} (hvalue : Takes 1 value)
    (h : nextKey first cs = .ok (some key, rest)) (hcolon : readColon rest = .ok start) {tail : List Char}
    (hstart : value start = .ok (v, tail))
    (hread : ∀ {cs rest start tail}, nextKey first cs = .ok (some key, rest) → readColon rest = .ok start →
      value start = .ok (v, tail) → a.read schema cs = (b.read schema tail).bind k) :
    Continues schema (a, cs) (b, tail) := by
  obtain ⟨p, hp, rfl, hkey⟩ := takes_nextKey _ _ _ _ h
  obtain ⟨q, hq, rfl, hcolon'⟩ := marks_readColon _ _ hcolon
  obtain ⟨q', hq', rfl, hstart'⟩ := hvalue _ _ _ hstart
  refine ⟨p ++ (q ++ q'), k, by simp, fun new hfits => ⟨?_, ?_⟩⟩
  · have hfits := a.fits_append (p := p ++ (q ++ q')) (by simp; omega) tail new
    rwa [List.append_assoc, List.append_assoc] at hfits
  · rw [List.append_assoc, List.append_assoc]
    exact hread (hkey _ ((hfits.meets.append q').append q)) (hcolon' _) (hstart' new hfits.meets)

end

/-- A value that may be absent is read where no word stands for its absence. -/
theorem readUnder_optional {n : Nat} {s : Shape ν} {cs rest : List Char} {c : Char} (h : skipBlanks cs = c :: rest) (hc : c ≠ 'n') :
    readUnder schema n (.optional s) cs = readUnder schema n s (c :: rest) := by
  have hread (item : Option (Shape ν → Reader Json)) :
      readShape schema item (.optional s) cs = readShape schema item s (c :: rest) := by
    rw [readShape, h]
    split
    · next heq => exact (hc (List.cons.inj heq).1).elim
    · rfl
  cases n <;> exact hread _

/-- A list is read by its items. -/
theorem readUnder_list {n : Nat} {s : Shape ν} {cs rest : List Char} (expected : String) (h : skipBlanks cs = '[' :: rest) :
    readUnder schema (n + 1) (.list expected s) cs =
      (Stage.read schema (.items n s true) rest).map fun (vs, rest) => (Json.array vs, rest) := by
  simp only [readUnder, readShape, h, if_true, Stage.read]

/-- A record that is an object is read by its members. -/
theorem readUnder_object {n : Nat} {name : ν} {r : Record ν} {cs rest : List Char} (hpart : schema name = .record r)
    (h : skipBlanks cs = '\x7b' :: rest) : readUnder schema (n + 1) (.part name) cs =
      (Stage.read schema (.members n r true []) rest).map fun (members, rest) => (Json.object members, rest) := by
  rw [readUnder, readShape_record hpart]
  simp [readRecord, h, Stage.read]

/-- A record that is a list is read by its fields by position. -/
theorem readUnder_array {n : Nat} {name : ν} {r : Record ν} {cs rest : List Char} (hpart : schema name = .record r)
    (hpositional : r.positional = true) (h : skipBlanks cs = '[' :: rest) : readUnder schema (n + 1) (.part name) cs =
      (readPositions (readUnder schema n) r r.fields 0 rest).bind fun (members, rest) =>
        (closeList rest).map fun rest => (Json.object members, rest) := by
  rw [readUnder, readShape_record hpart]
  simp only [readRecord, h, hpositional, and_self, if_true]
  cases readPositions (readUnder schema n) r r.fields 0 rest <;> rfl

/-- The content of a variant is read behind its name. -/
theorem readUnder_content {n : Nat} {name : ν} {variants : List (Variant ν)} {given : String} {x : Variant ν} {inner : Shape ν}
    {cs inside quoted rest start : List Char} (hpart : schema name = .choice variants) (h : skipBlanks cs = '\x7b' :: inside)
    (hquote : skipBlanks inside = '"' :: quoted) (hname : readString quoted = .ok (given, rest))
    (hvariant : findVariant variants given = .ok x) (hinner : x.content.inner? = some inner) (hcolon : readColon rest = .ok start) :
    readUnder schema (n + 1) (.part name) cs = (readUnder schema n inner start).bind fun (v, rest) =>
      (closeVariant rest).map fun rest => (Json.object [(x.name, v)], rest) := by
  have hcontent : readContent (readUnder schema n) x start =
      (readUnder schema n inner start).map fun (v, rest) => (Json.object [(x.name, v)], rest) := by
    cases hx : x.content with
    | none => simp [Content.inner?, hx] at hinner
    | value shape =>
      obtain rfl : shape = inner := by simpa [Content.inner?, hx] using hinner
      simp only [readContent, hx]
    | fields record =>
      obtain rfl : Shape.part record = inner := by simpa [Content.inner?, hx] using hinner
      simp only [readContent, hx]
  rw [readUnder, readShape_choice hpart]
  simp [readChoice, h, hquote, hname, hvariant, readAfterColon, hcolon, hcontent]
  cases readUnder schema n inner start <;> rfl

theorem readPositions_of_some {item : Shape ν → Reader Json} {r : Record ν} {f : Field ν} {fields : List (Field ν)} {index : Nat}
    {cs start : List Char} (h : nextItem (index = 0) cs = .ok (some start)) :
    readPositions item r (f :: fields) index cs = (item f.shape start).bind fun (v, rest) =>
      (readPositions item r fields (index + 1) rest).map fun (members, rest) => ((f.name, v) :: members, rest) := by
  simp only [readPositions, h]
  cases item f.shape start <;> rfl

theorem bind_ok (x : Except ReadError α) : (x.bind fun a => .ok a) = x := by
  cases x <;> rfl

theorem map_eq_bind {β : Type} (x : Except ReadError α) (f : α → β) : x.map f = x.bind fun a => .ok (f a) := by
  cases x <;> rfl

/-- **What is read at a stage is what is read at the one that a step comes to, and what is made of it then.** -/
theorem Step.continues {a b : Stage ν × List Char} (h : Step schema a b) : Continues schema a b := by
  cases h with
  | @present n s cs rest c h hc =>
    -- Nothing but blanks may be taken in this step, so it rests on the first character of what comes then.
    obtain ⟨ws, rfl, hblanks⟩ := exists_of_skipBlanks h
    refine ⟨ws, .ok, rfl, fun new hfits => ⟨Stage.fits_append_of_head _ ws hfits, ?_⟩⟩
    obtain ⟨more, rfl⟩ := List.head?_eq_some_iff.mp hfits
    refine (readUnder_optional (hblanks more) hc).trans ?_
    show readUnder schema n s (c :: more) = (readUnder schema n s (c :: more)).bind .ok
    cases readUnder schema n s (c :: more) <;> rfl
  | list expected h => exact continues_inside h fun h => (readUnder_list expected h).trans (map_eq_bind _ _)
  | item h => exact continues_item h Stage.read_items_of_some
  | @pastItem n s first cs start rest v h hvalue =>
    refine continues_pastItem (k := fun (vs, rest) => .ok (v :: vs, rest)) h hvalue fun {cs start rest} h hvalue => ?_
    rw [Stage.read_items_of_some h, hvalue]
    exact map_eq_bind _ _
  | object hpart h => exact continues_inside h fun h => (readUnder_object hpart h).trans (map_eq_bind _ _)
  | array hpart hpositional h => exact continues_inside h (readUnder_array hpart hpositional)
  | position h => exact continues_item h readPositions_of_some
  | @pastPosition n r f fields index cs start rest v h hvalue =>
    refine continues_pastItem (k := fun (members, rest) => .ok ((f.name, v) :: members, rest)) h hvalue
      fun {cs start rest} h hvalue => ?_
    refine (readPositions_of_some h).trans ?_
    rw [hvalue]
    exact map_eq_bind _ _
  | member h hfield hnew hcolon =>
    exact continues_member h hcolon fun h hcolon => Stage.read_members_known h hfield hnew hcolon
  | @pastMember n r first seen cs rest start tail key field v h hfield hnew hcolon hvalue =>
    refine continues_pastMember (a := .members n r first seen) (b := .members n r false (seen ++ [(key, v)])) (k := fun found => .ok found)
      (takes_under schema _ _) h hcolon hvalue fun h hcolon hvalue => ?_
    rw [Stage.read_members_known h hfield hnew hcolon, hvalue]
    exact (bind_ok _).symm
  | @pastUnknown n r first seen cs rest start tail key h hfield hlenient hcolon hskip =>
    refine continues_pastMember (a := .members n r first seen) (b := .members n r false seen) (k := fun found => .ok found)
      takes_skipValue h hcolon hskip fun h hcolon hskip => ?_
    rw [Stage.read_members_unknown h hfield hlenient hcolon hskip]
    exact (bind_ok _).symm
  | @content n name variants given x inner cs inside quoted rest start hpart h hquote hname hvariant hinner hcolon =>
    obtain ⟨ws, rfl, hblanks⟩ := exists_of_skipBlanks h
    obtain ⟨ws', rfl, hblanks'⟩ := exists_of_skipBlanks hquote
    obtain ⟨p, -, rfl, hname'⟩ := takes_string _ _ _ hname
    obtain ⟨q, -, rfl, hcolon'⟩ := marks_readColon _ _ hcolon
    refine ⟨ws ++ '\x7b' :: (ws' ++ '"' :: (p ++ q)),
      fun (v, rest) => (closeVariant rest).map fun rest => (Json.object [(x.name, v)], rest), by simp, fun new hfits => ?_⟩
    simp only [List.append_assoc, List.cons_append]
    refine ⟨?_, readUnder_content hpart (hblanks _) (hblanks' _) (hname' _ (hfits.meets.append q)) hvariant hinner (hcolon' new)⟩
    cases ws <;> rfl

/-- **What is read at a stage is what is read wherever reading comes to, and what is made of it then.** -/
theorem Run.continues {a b : Stage ν × List Char} (h : Run schema a b) : Continues schema a b := by
  induction h using Relation.ReflTransGen.head_induction_on with
  | refl => exact .refl b
  | head hstep _ ih => exact hstep.continues.trans ih

end DataRequests.Json
