import DataRequests.Declaration.Reader
import DataRequests.Proofs.ReadingSteps

/-!
# Members with unknown keys

One more member is put into an object of a document's text, anywhere between its members, with a key that is not a field of what the
object stands for. Reading comes to the object as before. A strict record makes it fail there, whatever stands around it; another one
passes the member over, and the document that is read is the one without it. The records that are not strict are the fields that some
variants have in place of a record of their own (`addsUnknown_fails_iff`).
-/

namespace DataRequests

namespace Json

variable {ν : Type} {schema : Schema ν} {n : Nat} {r : Record ν} {first : Bool} {seen : List (String × Json)} {key : String}
  {here here' : List Char}

/-! ## Added members -/

/-- One more member stands in a text that is inside of an object: its key, a colon and a value of any form, and then the members of the
other text. -/
def AddsMember (key : String) (first : Bool) (here here' : List Char) : Prop :=
  ∃ rest start tail, nextKey first here' = .ok (some key, rest) ∧ readColon rest = .ok start ∧ skipValue start = .ok ((), tail) ∧
    nextKey false tail = nextKey first here

/-- Where a key or the end of an object is found, no number goes on. -/
theorem ends_of_nextKey {cs rest : List Char} {key : Option String} (h : nextKey first cs = .ok (key, rest)) : Ends cs := by
  intro c hc
  obtain ⟨cs, rfl⟩ := List.head?_eq_some_iff.mp hc
  have hchar : isBlank c = true ∨ c = '\x7d' ∨ c = '"' ∨ c = ',' := by
    by_cases hblank : isBlank c = true
    · exact .inl hblank
    · rw [nextKey, skipBlanks, if_neg hblank] at h
      dsimp only at h
      split at h
      · next hclose => exact .inr (.inl hclose)
      · split at h
        · simp only [nextKey.key] at h
          split at h
          · next hquote => exact .inr (.inr (.inl hquote))
          · cases h
        · split at h
          · next hcomma => exact .inr (.inr (.inr hcomma))
          · cases h
  simp only [isBlank, Bool.or_eq_true, decide_eq_true_eq] at hchar
  obtain (((rfl | rfl) | rfl) | rfl) | rfl | rfl | rfl := hchar <;> decide

theorem ends_cons {c : Char} (h : c.isDigit = false ∧ c ≠ '.' ∧ c ≠ 'e' ∧ c ≠ 'E') (cs : List Char) : Ends (c :: cs) := by
  intro d hd
  cases hd
  exact h

/-- A reader that takes a whole text takes it from the front of another one. -/
theorem Takes.read_append {α : Type} {m : Nat} {read : Reader α} (h : Takes m read) {p rest : List Char} {v : α}
    (hread : read p = .ok (v, [])) (hrest : Ends rest) : read (p ++ rest) = .ok (v, rest) := by
  obtain ⟨q, -, hp, hnew⟩ := h p v [] hread
  rw [List.append_nil] at hp
  rw [hp]
  exact hnew rest (.inr hrest)

/-- A key that is written is the next one. -/
theorem nextKey_written {quoted value rest : List Char} (hkey : readString quoted = .ok (key, [])) :
    nextKey true ('"' :: (quoted ++ ':' :: (value ++ rest))) = .ok (some key, ':' :: (value ++ rest)) := by
  have hquoted : readString (quoted ++ ':' :: (value ++ rest)) = .ok (key, ':' :: (value ++ rest)) :=
    takes_string.read_append hkey (ends_cons (by decide) _)
  simp [nextKey, skipBlanks, isBlank, nextKey.key, hquoted, Except.map]

/-- A member that is written in front of another one is added. -/
theorem AddsMember.in_front {quoted value more : List Char} (hkey : readString quoted = .ok (key, []))
    (hvalue : skipValue value = .ok ((), [])) (hhere : skipBlanks here = '"' :: more) :
    AddsMember key true here ('"' :: (quoted ++ ':' :: (value ++ ',' :: here))) := by
  refine ⟨_, _, _, nextKey_written hkey, rfl, takes_skipValue.read_append hvalue (ends_cons (by decide) here), ?_⟩
  simp [nextKey, skipBlanks, isBlank, hhere]

/-- A strict record has no other members. -/
theorem AddsMember.read_strict (h : AddsMember key first here here') (hkey : r.fields.find? (·.name = key) = none)
    (hstrict : r.strict = true) :
    Stage.read schema (.members n r first seen) here' = .error (.unknownField key (r.fields.map (·.name))) := by
  obtain ⟨rest, start, tail, hnext, -⟩ := h
  exact Stage.read_members_strict hnext hkey hstrict

/-- A record that is not strict is read as without the member. -/
theorem AddsMember.read_lenient (h : AddsMember key first here here') (hkey : r.fields.find? (·.name = key) = none)
    (hlenient : r.strict = false) :
    Stage.read schema (.members n r first seen) here' = Stage.read schema (.members n r first seen) here := by
  obtain ⟨rest, start, tail, hnext, hcolon, hskip, hthen⟩ := h
  rw [Stage.read_members_unknown hnext hkey hlenient hcolon hskip, Stage.read_members, hthen, ← Stage.read_members]

/-- What is read of a whole text in which a member is added. -/
theorem AddsMember.exists_continuation {s : Shape ν} {m : Nat} {front : List Char} (h : AddsMember key first here here')
    (hrun : Run schema (.value m s, front ++ here) (.members n r first seen, here)) :
    ∃ k : List (String × Json) × List Char → Except ReadError (Json × List Char),
      readUnder schema m s (front ++ here) = (Stage.read schema (.members n r first seen) here).bind k ∧
        readUnder schema m s (front ++ here') = (Stage.read schema (.members n r first seen) here').bind k := by
  obtain ⟨p, k, hfront, hread⟩ := hrun.continues
  obtain rfl : front = p := List.append_cancel_right hfront
  obtain ⟨rest, start, tail, hnext, -⟩ := h
  exact ⟨k, (hread here (.refl here)).2, (hread here' (.inr (ends_of_nextKey hnext))).2⟩

/-- A whole text is read when its value is, with nothing but blanks behind it. -/
theorem read_eq_bind (schema : Schema ν) (s : Shape ν) (text : String) :
    read schema s text = (readUnder schema depthLimit s text.toList).bind fun (value, rest) =>
      match skipBlanks rest with
      | [] => .ok value
      | _ :: _ => .error .trailingCharacters := by
  unfold read
  cases readUnder schema depthLimit s text.toList <;> rfl

end Json

open Json

/-! ## Documents -/

/-- The fields of a variant that has no record of its own. -/
def DeclarationPart.IsVariantFields (part : DeclarationPart) : Prop :=
  ∃ whole variants x, declarationSchema whole = .choice variants ∧ x ∈ variants ∧ x.content = .fields part

theorem DeclarationPart.isVariantFields_iff {part : DeclarationPart} : part.IsVariantFields ↔
    part ∈ [.rename, .payload, .sourceParams, .transport, .reuse, .controller, .paramsProvider, .forward] := by
  constructor
  · rintro ⟨whole, variants, x, hwhole, hx, hcontent⟩
    cases whole <;> cases hwhole
    · simp only [List.mem_cons, List.not_mem_nil, or_false] at hx
      rcases hx with rfl | rfl <;> cases hcontent <;> decide
    · simp only [List.mem_cons, List.not_mem_nil, or_false] at hx
      rcases hx with rfl | rfl | rfl | rfl | rfl | rfl | rfl <;> cases hcontent
      decide
    · obtain ⟨kind, -, rfl⟩ := List.mem_map.mp hx
      cases hcontent
    · simp only [List.mem_cons, List.not_mem_nil, or_false] at hx
      rcases hx with rfl | rfl | rfl | rfl | rfl | rfl | rfl | rfl | rfl | rfl | rfl <;> cases hcontent <;> decide
  · intro hpart
    simp only [List.mem_cons, List.not_mem_nil, or_false] at hpart
    rcases hpart with rfl | rfl | rfl | rfl | rfl | rfl | rfl | rfl
    · exact ⟨.tag, _, ⟨"rename", .fields .rename⟩, rfl, by simp, rfl⟩
    · exact ⟨.tag, _, ⟨"payload", .fields .payload⟩, rfl, by simp, rfl⟩
    · exact ⟨.capability, _, ⟨"source-params", .fields .sourceParams⟩, rfl, by simp, rfl⟩
    · exact ⟨.marker, _, ⟨"transport", .fields .transport⟩, rfl, by simp, rfl⟩
    · exact ⟨.marker, _, ⟨"reuse", .fields .reuse⟩, rfl, by simp, rfl⟩
    · exact ⟨.marker, _, ⟨"controller-reference", .fields .controller⟩, rfl, by simp, rfl⟩
    · exact ⟨.marker, _, ⟨"params-provider", .fields .paramsProvider⟩, rfl, by simp, rfl⟩
    · exact ⟨.marker, _, ⟨"forward", .fields .forward⟩, rfl, by simp, rfl⟩

/-- The parts whose objects have no other members are the other ones. -/
theorem DeclarationPart.strict_iff {part : DeclarationPart} {r : Record DeclarationPart} (hpart : declarationSchema part = .record r) :
    r.strict = true ↔ ¬part.IsVariantFields := by
  rw [isVariantFields_iff]
  cases part <;> cases hpart <;> decide

/-- A text is a document's text with one more member in an object that stands for a part, with a key that is none of its fields. -/
inductive Document.AddsUnknown (part : DeclarationPart) (key : String) (text text' : String) : Prop where
  | intro {r : Record DeclarationPart} {n : Nat} {first : Bool} {seen : List (String × Json)} {front here here' : List Char}
      (hpart : declarationSchema part = .record r) (htext : text.toList = front ++ here) (htext' : text'.toList = front ++ here')
      (hrun : Run declarationSchema (.value depthLimit (.part .document), text.toList) (.members n r first seen, here))
      (hadds : AddsMember key first here here') (hkey : key ∉ (declarationSchema part).names)

/-- Such a text fails to be read at the key, or it is read as the document's text is. -/
theorem Document.AddsUnknown.parse_eq {part : DeclarationPart} {key : String} {text text' : String} {d : Document}
    (h : Document.AddsUnknown part key text text') (hparse : Document.parse text = .ok d) :
    (¬part.IsVariantFields ∧ Document.parse text' = .error (.unknownField key (declarationSchema part).names)) ∨
      (part.IsVariantFields ∧ Document.parse text' = .ok d) := by
  obtain @⟨r, n, first, seen, front, here, here', hpart, htext, htext', hrun, hadds, hkey⟩ := h
  rw [htext] at hrun
  obtain ⟨k, hread, hread'⟩ := hadds.exists_continuation hrun
  rw [hpart] at hkey ⊢
  have hfind : r.fields.find? (·.name = key) = none := by
    refine List.find?_eq_none.mpr fun field hfield hname => hkey ?_
    exact List.mem_map.mpr ⟨field, hfield, of_decide_eq_true hname⟩
  cases hstrict : r.strict with
  | true =>
    refine .inl ⟨(DeclarationPart.strict_iff hpart).mp hstrict, ?_⟩
    rw [Document.parse, read_eq_bind, htext', hread', hadds.read_strict hfind hstrict]
    rfl
  | false =>
    have hfields : part.IsVariantFields := by
      by_contra hnot
      rw [(DeclarationPart.strict_iff hpart).mpr hnot] at hstrict
      cases hstrict
    refine .inr ⟨hfields, ?_⟩
    rw [← hparse, Document.parse, Document.parse, read_eq_bind, read_eq_bind, htext, htext', hread, hread',
      hadds.read_lenient hfind hstrict]

/-- **A member with an unknown key makes reading fail in all objects but the fields of variants**, and there it changes nothing. -/
theorem addsUnknown_fails_iff {part : DeclarationPart} {key : String} {text text' : String} {d : Document}
    (hparse : Document.parse text = .ok d) (hadds : Document.AddsUnknown part key text text') :
    ((∃ e, Document.parse text' = .error e) ↔ ¬part.IsVariantFields) ∧ (part.IsVariantFields → Document.parse text' = .ok d) := by
  obtain ⟨hstrict, herror⟩ | ⟨hfields, hok⟩ := hadds.parse_eq hparse
  · exact ⟨⟨fun _ => hstrict, fun _ => ⟨_, herror⟩⟩, fun hfields => absurd hfields hstrict⟩
  · refine ⟨⟨?_, fun hstrict => absurd hfields hstrict⟩, fun _ => hok⟩
    rintro ⟨e, he⟩
    rw [hok] at he
    cases he

/-- Reading an object comes to the first item of a list that its first member holds. -/
theorem Json.Run.firstItem {ν : Type} {schema : Schema ν} {n : Nat} {name : ν} {r : Record ν} {key : String}
    {inner : Shape ν} (expected : String) (absence : Absence) {cs inside rest opened items start : List Char}
    (hpart : schema name = .record r)
    (hfield : r.fields.find? (·.name = key) = some ⟨key, .list expected inner, absence⟩) (hobject : skipBlanks cs = '\x7b' :: inside)
    (hkey : nextKey true inside = .ok (some key, rest)) (hcolon : readColon rest = .ok opened)
    (hlist : skipBlanks opened = '[' :: items) (hitem : nextItem true items = .ok (some start)) :
    Run schema (.value (n + 2) (.part name), cs) (.value n inner, start) :=
  .head (.object hpart hobject) (.head (.member hkey hfield rfl hcolon) (.head (.list expected hlist) (.single (.item hitem))))

/-- The characters of a document in which a method carries a marker. -/
def markedChars : List Char :=
  "\x7b\"interfaces\":[".toList ++ "\x7b\"methods\":[".toList ++ "\x7b\"annotations\":[".toList ++
    "\x7b\"reuse\":\x7b\"method\":\"items\"\x7d\x7d],".toList ++ "\"name\":\"note\",\"return-type\":".toList ++
    "\x7b\"name\":\"Note\"\x7d\x7d],".toList ++ "\"name\":\"Items\"\x7d]\x7d".toList

/-- The document itself. -/
def markedDocument : Document :=
  ⟨none, [⟨"Items", none, none, [⟨"note", { name := "Note" }, [], [.reuse "items"]⟩]⟩]⟩

/-- The characters with one more member from a place on. -/
def markedCharsWith (place : Nat) : List Char :=
  markedChars.take place ++ '"' :: (['x', '"'] ++ ':' :: (['[', '1', ']'] ++ ',' :: markedChars.drop place))

/-- A text is read from its characters. -/
theorem Document.parse_ofList (cs : List Char) : Document.parse (String.ofList cs) =
    ((readUnder declarationSchema depthLimit (.part .document) cs).bind fun (value, rest) =>
      match skipBlanks rest with
      | [] => .ok value
      | _ :: _ => .error .trailingCharacters).map Document.ofJson := by
  rw [Document.parse, read_eq_bind, String.toList_ofList]

theorem parse_markedChars : Document.parse (String.ofList markedChars) = .ok markedDocument := by
  rw [Document.parse_ofList]
  decide +kernel

/-- Reading comes to the method, and to the content of its marker. -/
theorem run_marked : Run declarationSchema (.value depthLimit (.part .document), markedChars)
      (.value 123 (.part .method), markedChars.drop 27) ∧
    Run declarationSchema (.value 123 (.part .method), markedChars.drop 27) (.value 120 (.part .reuse), markedChars.drop 52) := by
  obtain ⟨⟨hobject₁, hkey₁, hcolon₁, hlist₁, hitem₁⟩, ⟨hobject₂, hkey₂, hcolon₂, hlist₂, hitem₂⟩,
      ⟨hobject₃, hkey₃, hcolon₃, hlist₃, hitem₃⟩, hobject₄, hquote₄, hname₄, hcolon₄⟩ :
      (skipBlanks markedChars = '\x7b' :: markedChars.drop 1 ∧
        nextKey true (markedChars.drop 1) = .ok (some "interfaces", markedChars.drop 13) ∧
        readColon (markedChars.drop 13) = .ok (markedChars.drop 14) ∧
        skipBlanks (markedChars.drop 14) = '[' :: markedChars.drop 15 ∧
        nextItem true (markedChars.drop 15) = .ok (some (markedChars.drop 15))) ∧
      (skipBlanks (markedChars.drop 15) = '\x7b' :: markedChars.drop 16 ∧
        nextKey true (markedChars.drop 16) = .ok (some "methods", markedChars.drop 25) ∧
        readColon (markedChars.drop 25) = .ok (markedChars.drop 26) ∧
        skipBlanks (markedChars.drop 26) = '[' :: markedChars.drop 27 ∧
        nextItem true (markedChars.drop 27) = .ok (some (markedChars.drop 27))) ∧
      (skipBlanks (markedChars.drop 27) = '\x7b' :: markedChars.drop 28 ∧
        nextKey true (markedChars.drop 28) = .ok (some "annotations", markedChars.drop 41) ∧
        readColon (markedChars.drop 41) = .ok (markedChars.drop 42) ∧
        skipBlanks (markedChars.drop 42) = '[' :: markedChars.drop 43 ∧
        nextItem true (markedChars.drop 43) = .ok (some (markedChars.drop 43))) ∧
      skipBlanks (markedChars.drop 43) = '\x7b' :: markedChars.drop 44 ∧
      skipBlanks (markedChars.drop 44) = '"' :: markedChars.drop 45 ∧
      readString (markedChars.drop 45) = .ok ("reuse", markedChars.drop 51) ∧
      readColon (markedChars.drop 51) = .ok (markedChars.drop 52) := by
    decide +kernel
  have hinterface : Run declarationSchema (.value depthLimit (.part .document), markedChars)
      (.value 125 (.part .interface), markedChars.drop 15) :=
    Run.firstItem "a sequence" .missing rfl (by simp [DeclarationPart.optionalPart]) hobject₁ hkey₁ hcolon₁ hlist₁ hitem₁
  have hmethod : Run declarationSchema (.value 125 (.part .interface), markedChars.drop 15)
      (.value 123 (.part .method), markedChars.drop 27) := by
    refine Run.firstItem "a sequence" (.default (.array [])) rfl ?_ hobject₂ hkey₂ hcolon₂ hlist₂ hitem₂
    simp [DeclarationPart.optionalPart, DeclarationPart.textField, DeclarationPart.listField]
  have hmarker : Run declarationSchema (.value 123 (.part .method), markedChars.drop 27)
      (.value 121 (.part .marker), markedChars.drop 43) := by
    refine Run.firstItem "a sequence" (.default (.array [])) rfl ?_ hobject₃ hkey₃ hcolon₃ hlist₃ hitem₃
    simp [DeclarationPart.textField, DeclarationPart.listField]
  refine ⟨hinterface.trans hmethod, hmarker.tail ?_⟩
  exact .content (x := ⟨"reuse", .fields .reuse⟩) rfl hobject₄ hquote₄ hname₄ (by simp [findVariant]) rfl hcolon₄

/-- A member is added at the front of an object of the document. -/
theorem marked_addsUnknown {part : DeclarationPart} {r : Record DeclarationPart} {n place : Nat}
    (hpart : declarationSchema part = .record r) (hkey : "x" ∉ (declarationSchema part).names)
    (hrun : Run declarationSchema (.value depthLimit (.part .document), markedChars) (.value (n + 1) (.part part), markedChars.drop place))
    (hplace : skipBlanks (markedChars.drop place) = '\x7b' :: markedChars.drop (place + 1) ∧
      skipBlanks (markedChars.drop (place + 1)) = '"' :: markedChars.drop (place + 2)) :
    Document.AddsUnknown part "x" (String.ofList markedChars) (String.ofList (markedCharsWith (place + 1))) := by
  have htext : (String.ofList markedChars).toList = markedChars.take (place + 1) ++ markedChars.drop (place + 1) := by
    rw [String.toList_ofList, List.take_append_drop]
  have hobject : Run declarationSchema (.value depthLimit (.part .document), (String.ofList markedChars).toList)
      (.members n r true [], markedChars.drop (place + 1)) := by
    rw [String.toList_ofList]
    exact hrun.tail (.object hpart hplace.1)
  have hquoted : readString ['x', '"'] = .ok ("x", []) := by decide +kernel
  have hvalue : skipValue ['[', '1', ']'] = .ok ((), []) := by decide +kernel
  exact .intro hpart htext String.toList_ofList hobject (.in_front hquoted hvalue hplace.2) hkey

/-- A method with an unknown member is not read. -/
theorem markedCharsWith_fails : Document.parse (String.ofList markedChars) = .ok markedDocument ∧
    Document.AddsUnknown .method "x" (String.ofList markedChars) (String.ofList (markedCharsWith 28)) ∧
    ∃ e, Document.parse (String.ofList (markedCharsWith 28)) = .error e := by
  have hadds : Document.AddsUnknown .method "x" (String.ofList markedChars) (String.ofList (markedCharsWith 28)) :=
    marked_addsUnknown rfl (by decide) run_marked.1 (by decide +kernel)
  refine ⟨parse_markedChars, hadds, (addsUnknown_fails_iff parse_markedChars hadds).1.mpr ?_⟩
  rw [DeclarationPart.isVariantFields_iff]
  decide

/-- The fields of a marker are read with an unknown member as without it. -/
theorem markedCharsWith_not_fails : ¬∀ (part : DeclarationPart) (key : String) (text text' : String) (d : Document),
    Document.parse text = .ok d → Document.AddsUnknown part key text text' → ∃ e, Document.parse text' = .error e := by
  intro hall
  have hadds : Document.AddsUnknown .reuse "x" (String.ofList markedChars) (String.ofList (markedCharsWith 53)) :=
    marked_addsUnknown rfl (by decide) (run_marked.1.trans run_marked.2) (by decide +kernel)
  have hparse : Document.parse (String.ofList (markedCharsWith 53)) = .ok markedDocument := by
    rw [Document.parse_ofList]
    decide +kernel
  obtain ⟨e, he⟩ := hall .reuse "x" _ _ markedDocument parse_markedChars hadds
  rw [hparse] at he
  cases he

end DataRequests
