import DataRequests.Proofs.Places
import Mathlib.Data.Set.Monotone
import Mathlib.Order.Bounds.Image

/-!
# Offsets of diagnostics

A diagnostic points into a document by offsets that count the bytes of its UTF-8 form. Where the bytes of a name in quotation marks
stand among those of the text, the text has a character at each end (`Text.BytesAt.isValid`), so that the places which a search by
characters finds are the offsets which a search by bytes finds, in the same order (`Text.image_offsetOf`). From this follows where a
diagnostic points to (`span_diagnostic_iff`), and that no offset on the way lies outside of the text or inside of a character.
-/

namespace DataRequests

namespace Text

variable {pattern text : String} {offset start place : Nat}

/-! ## Bytes and characters -/

/-- The bytes of a pattern stand in those of a text from an offset on. -/
def BytesAt (pattern text : String) (offset : Nat) : Prop :=
  offset + pattern.utf8ByteSize ≤ text.utf8ByteSize ∧
    text.toByteArray.extract offset (offset + pattern.utf8ByteSize) = pattern.toByteArray

instance (pattern text : String) (offset : Nat) : Decidable (BytesAt pattern text offset) :=
  inferInstanceAs (Decidable (_ ∧ _))

/-- The characters of a text take the bytes of the text. -/
theorem byteLength_eq (cs : List Char) : byteLength cs = (String.ofList cs).utf8ByteSize := by
  induction cs with
  | nil => rfl
  | cons c rest ih =>
    have hcons : String.ofList (c :: rest) = String.singleton c ++ String.ofList rest := by
      rw [String.singleton_eq_ofList, ← String.ofList_append, List.singleton_append]
    rw [byteLength, ih, hcons, String.utf8ByteSize_append, String.utf8ByteSize_singleton]

/-- Where the bytes of a pattern stand, the text has a character on each side: a pattern starts with the first byte of a character. -/
theorem BytesAt.isValid (hpattern : pattern ≠ "") (h : BytesAt pattern text offset) :
    String.Pos.Raw.IsValid text ⟨offset⟩ ∧ String.Pos.Raw.IsValid text ⟨offset + pattern.utf8ByteSize⟩ := by
  obtain ⟨hle, hbytes⟩ := h
  have hutf8 : (text.toByteArray.extract offset (offset + pattern.utf8ByteSize)).IsValidUTF8 := hbytes ▸ pattern.isValidUTF8
  have hends := (String.Pos.Raw.isValidUTF8_extract_iff (s := text) ⟨offset⟩ ⟨offset + pattern.utf8ByteSize⟩
    (String.Pos.Raw.le_iff.mpr (Nat.le_add_right ..)) (String.Pos.Raw.le_iff.mpr hle)).mp hutf8
  rcases hends with hsame | hvalid
  · have hsize : pattern.utf8ByteSize = 0 := by simpa using hsame
    exact absurd (String.utf8ByteSize_eq_zero_iff.mp hsize) hpattern
  · exact hvalid

/-- The bytes of a pattern stand at an offset exactly when the pattern divides the text there. -/
theorem bytesAt_iff_append (hpattern : pattern ≠ "") :
    BytesAt pattern text offset ↔ ∃ before after, text = before ++ pattern ++ after ∧ before.utf8ByteSize = offset := by
  constructor
  · intro h
    -- Between two characters the bytes on either side are texts of their own.
    obtain ⟨hstart, hstop⟩ := h.isValid hpattern
    refine ⟨⟨_, hstart.isValidUTF8_extract_zero⟩, ⟨_, hstop.isValidUTF8_extract_utf8ByteSize⟩, ?_, ?_⟩
    · rw [← String.toByteArray_inj, String.toByteArray_append, String.toByteArray_append, ← h.2]
      simp [← String.size_toByteArray]
    · have hle : offset ≤ text.utf8ByteSize := hstart.le_utf8ByteSize
      rw [← String.size_toByteArray, ByteArray.size_extract, String.size_toByteArray, Nat.min_eq_left hle, Nat.sub_zero]
  · rintro ⟨before, after, rfl, rfl⟩
    refine ⟨by simp, ?_⟩
    rw [String.append_assoc, String.toByteArray_append, String.toByteArray_append]
    exact (ByteArray.extract_append_size_add (i := 0)).trans (ByteArray.extract_append_eq_left rfl)

/-! ## Places and offsets -/

/-- The offset of the place behind so many characters. -/
def offsetOf (text : List Char) (place : Nat) : Nat :=
  byteLength (text.take place)

/-- Offsets grow with the places. -/
theorem strictMonoOn_offsetOf (text : List Char) : StrictMonoOn (offsetOf text) (Set.Iic text.length) := by
  intro place _ place' hplace' hlt
  obtain ⟨tail, htail⟩ := List.take_prefix_take_left (l := text) hlt.le
  have htail_ne : tail ≠ [] := by
    rintro rfl
    have hlength : min place text.length = min place' text.length := by simpa using congrArg List.length htail
    have hle : place' ≤ text.length := hplace'
    omega
  have hpos : byteLength tail ≠ 0 := fun h => htail_ne (eq_nil_of_byteLength_eq_zero h)
  show byteLength (text.take place) < byteLength (text.take place')
  rw [← htail, byteLength_append]
  omega

/-- The offset of a place lies in the text and between two characters. -/
theorem isValid_offsetOf (text : String) (place : Nat) : String.Pos.Raw.IsValid text ⟨offsetOf text.toList place⟩ :=
  String.Pos.Raw.isValid_iff_exists_take_toList.mpr ⟨place, byteLength_eq _⟩

/-- A pattern that is not empty stands in front of the end of the text. -/
theorem StandsAt.le_length {pattern text : List Char} (hpattern : pattern ≠ []) (h : StandsAt pattern text place) :
    place ≤ text.length := by
  by_contra hlt
  rw [StandsAt, List.drop_eq_nil_of_le (by omega), List.prefix_nil] at h
  exact hpattern h

/-- The offsets at which the bytes of a pattern stand are those of the places where the pattern stands. -/
theorem image_offsetOf (hpattern : pattern ≠ "") :
    offsetOf text.toList '' {place | StandsAt pattern.toList text.toList place} = {offset | BytesAt pattern text offset} := by
  ext offset
  rw [Set.mem_ofPred_eq, bytesAt_iff_append hpattern]
  constructor
  · rintro ⟨place, ⟨after, hafter⟩, rfl⟩
    refine ⟨String.ofList (text.toList.take place), String.ofList after, ?_, (byteLength_eq _).symm⟩
    rw [← String.toList_inj, String.toList_append, String.toList_append, String.toList_ofList, String.toList_ofList,
      List.append_assoc, hafter, List.take_append_drop]
  · rintro ⟨before, after, rfl, rfl⟩
    refine ⟨before.toList.length, ?_, ?_⟩
    · show pattern.toList <+: _
      rw [String.toList_append, String.toList_append, List.append_assoc, List.drop_left]
      exact List.prefix_append ..
    · rw [offsetOf, String.toList_append, String.toList_append, List.append_assoc, List.take_left, byteLength_eq,
        String.ofList_toList]

/-! ## Searches -/

/-- Where a search starts that something leads to: at the first place where that stands, or at the start of the text. -/
def StartsAt (stands : Nat → Prop) (start : Nat) : Prop :=
  IsLeast {place | stands place} start ∨ (∀ place, ¬stands place) ∧ start = 0

section

variable (hpattern : pattern ≠ "")
include hpattern

/-- The bytes of a pattern stand somewhere exactly when the pattern does. -/
theorem exists_bytesAt_iff :
    (∃ offset, BytesAt pattern text offset) ↔ ∃ place, StandsAt pattern.toList text.toList place := by
  show Set.Nonempty {offset | BytesAt pattern text offset} ↔ _
  rw [← image_offsetOf hpattern, Set.image_nonempty]
  rfl

/-- The offsets from that of a place on are those of the places from there on. -/
theorem image_offsetOf_from (hstart : start ≤ text.toList.length) :
    offsetOf text.toList '' {place | start ≤ place ∧ StandsAt pattern.toList text.toList place} =
      {offset | offsetOf text.toList start ≤ offset ∧ BytesAt pattern text offset} := by
  have hle : ∀ place, StandsAt pattern.toList text.toList place →
      (offsetOf text.toList start ≤ offsetOf text.toList place ↔ start ≤ place) := fun place hstands =>
    (strictMonoOn_offsetOf text.toList).le_iff_le hstart (hstands.le_length (by simpa using hpattern))
  have himage : ∀ offset, BytesAt pattern text offset ↔ ∃ place, StandsAt pattern.toList text.toList place ∧
      offsetOf text.toList place = offset := fun offset => (Set.ext_iff.mp (image_offsetOf hpattern) offset).symm
  ext offset
  constructor
  · rintro ⟨place, ⟨hplace, hstands⟩, rfl⟩
    exact ⟨(hle place hstands).mpr hplace, (himage _).mpr ⟨place, hstands, rfl⟩⟩
  · rintro ⟨hoffset, hbytes⟩
    obtain ⟨place, hstands, rfl⟩ := (himage _).mp hbytes
    exact ⟨place, ⟨(hle place hstands).mp hoffset, hstands⟩, rfl⟩

/-- The first one of some places where a pattern stands has the first one of their offsets. -/
theorem isLeast_offsetOf {places : Set Nat} (hplaces : places ⊆ {place | StandsAt pattern.toList text.toList place})
    (h : IsLeast places place) : IsLeast (offsetOf text.toList '' places) (offsetOf text.toList place) := by
  have hlength : places ⊆ Set.Iic text.toList.length := fun _ hother =>
    (hplaces hother).le_length (by simpa using hpattern)
  have hmono : MonotoneOn (offsetOf text.toList) places := ((strictMonoOn_offsetOf text.toList).mono hlength).monotoneOn
  exact hmono.map_isLeast h

/-- A search by characters and one by bytes start at one point of the text. -/
theorem StartsAt.offsetOf (h : StartsAt (StandsAt pattern.toList text.toList) start) :
    StartsAt (BytesAt pattern text) (offsetOf text.toList start) := by
  rcases h with hleast | ⟨hnone, rfl⟩
  · have hfirst := isLeast_offsetOf hpattern subset_rfl hleast
    rw [image_offsetOf hpattern] at hfirst
    exact .inl hfirst
  · refine .inr ⟨?_, rfl⟩
    have hno : ¬∃ offset, BytesAt pattern text offset := (exists_bytesAt_iff hpattern).not.mpr (not_exists.mpr hnone)
    exact not_exists.mp hno

/-- A search by characters and one by bytes end at one point of the text. -/
theorem FoundFrom.offsetOf (hstart : start ≤ text.toList.length) (h : FoundFrom (StandsAt pattern.toList text.toList) start place) :
    FoundFrom (BytesAt pattern text) (offsetOf text.toList start) (offsetOf text.toList place) := by
  rcases h with hleast | ⟨hnone, hleast⟩
  · have hfirst := isLeast_offsetOf hpattern (fun _ hother => hother.2) hleast
    rw [image_offsetOf_from hpattern hstart] at hfirst
    exact .inl hfirst
  · have hfirst := isLeast_offsetOf hpattern subset_rfl hleast
    rw [image_offsetOf hpattern] at hfirst
    refine .inr ⟨?_, hfirst⟩
    intro offset hoffset hbytes
    obtain ⟨place, ⟨hplace, hstands⟩, -⟩ := (image_offsetOf_from hpattern hstart).ge ⟨hoffset, hbytes⟩
    exact hnone place hplace hstands

end

end Text

namespace Span

open Text

variable {interface method pattern text : String} {s s' : Span}

/-! ## What a span reads -/

/-- A name in quotation marks. -/
def quotation (name : String) : String :=
  "\"" ++ name ++ "\""

theorem toList_quotation (name : String) : (quotation name).toList = quotedName name := by
  simp [quotation, quotedName]

theorem quotation_ne_empty (name : String) : quotation name ≠ "" := by
  simp [quotation]

/-- A span lies in a text and reads a pattern there: its offsets lie in the text and inside of no character, and between them stand the
bytes of the pattern. -/
structure Reads (s : Span) (pattern text : String) : Prop where
  source_eq : s.source = text.toList
  text_eq : String.ofList s.text = pattern
  start_isValid : String.Pos.Raw.IsValid text ⟨s.start⟩
  stop_isValid : String.Pos.Raw.IsValid text ⟨s.stop⟩
  bytes_eq : text.toByteArray.extract s.start s.stop = pattern.toByteArray

/-- A span that lies in a text and shows a pattern reads it. -/
theorem reads_of_source_eq (hpattern : pattern ≠ "") (hsource : s.source = text.toList) (htext : s.text = pattern.toList) :
    s.Reads pattern text := by
  have hbytes : BytesAt pattern text s.start := by
    refine (bytesAt_iff_append hpattern).mpr ⟨String.ofList s.before, String.ofList s.after, ?_, (byteLength_eq _).symm⟩
    rw [← String.toList_inj, String.toList_append, String.toList_append, String.toList_ofList, String.toList_ofList, ← htext]
    exact hsource.symm
  have hstop : s.stop = s.start + pattern.utf8ByteSize := by
    rw [stop, htext, byteLength_eq, String.ofList_toList]
  obtain ⟨hstart_valid, hstop_valid⟩ := hbytes.isValid hpattern
  exact {
    source_eq := hsource
    text_eq := by rw [htext, String.ofList_toList]
    start_isValid := hstart_valid
    stop_isValid := hstop ▸ hstop_valid
    bytes_eq := hstop ▸ hbytes.2 }

/-- A span starts at the offset of the place where it starts. -/
theorem start_eq_offsetOf (s : Span) : s.start = offsetOf s.source s.before.length := by
  rw [start, offsetOf, source, List.append_assoc, List.take_left]

/-- Spans of one text that read one pattern from one offset on are the same. -/
theorem Reads.eq_of_start_eq (h : s.Reads pattern text) (h' : s'.Reads pattern text) (hstart : s.start = s'.start) : s = s' := by
  have hsource : s.source = s'.source := h.source_eq.trans h'.source_eq.symm
  have hbefore : s.before = s'.before := before_eq_of_start_eq hsource hstart
  have htext : s.text = s'.text := String.ofList_injective (h.text_eq.trans h'.text_eq.symm)
  have hafter : s.after = s'.after := by
    rw [source, source, hbefore, htext] at hsource
    exact List.append_cancel_left hsource
  cases s
  cases s'
  rw [Span.mk.injEq]
  exact ⟨hbefore, htext, hafter⟩

/-! ## Where a declaration is found -/

/-- The search for the methods of an interface starts where the quoted name of the interface first stands, or at the start of the text. -/
theorem startsAt_searchStart (interface : String) (text : List Char) :
    StartsAt (StandsAt (quotedName interface) text) (searchStart interface text) := by
  unfold searchStart cutBefore
  split
  · next before after hcut =>
    have hfirst : first? (quotedName interface) [] text = some ⟨before, quotedName interface, after⟩ := by
      rw [first?, hcut]
      rfl
    obtain ⟨-, -, hleast⟩ := first?_eq_some hfirst
    exact .inl (by simpa using hleast)
  · next hnone => exact .inr ⟨not_standsAt_of_cutAt_eq_none hnone, rfl⟩

/-- This place lies in the text. -/
theorem searchStart_le_length (interface : String) (text : List Char) : searchStart interface text ≤ text.length := by
  have hlength := congrArg List.length (cutBefore_append interface text)
  rw [List.length_append] at hlength
  exact Nat.le.intro hlength

/-- A declaration is found exactly when the quoted name of the method stands in the text. -/
theorem exists_declaration?_iff (interface method : String) (text : List Char) :
    (∃ s, declaration? interface method text = some s) ↔ ∃ place, StandsAt (quotedName method) text place := by
  constructor
  · rintro ⟨s, hs⟩
    obtain ⟨-, -, hends⟩ := declaration?_eq_some hs
    exact FoundFrom.exists hends
  · rintro ⟨place, hstands⟩
    by_contra hnone
    have hnot : declaration? interface method text = none := Option.eq_none_iff_forall_not_mem.mpr (not_exists.mp hnone)
    rw [declaration?, Option.or_eq_none_iff] at hnot
    exact not_standsAt_of_first?_eq_none hnot.2 place (Nat.zero_le place) hstands

/-- The span of a declaration reads the name in quotation marks where the search by bytes ends. -/
theorem declaration?_eq_some_iff (s : Span) :
    declaration? interface method text.toList = some s ↔
      s.Reads (quotation method) text ∧
        FoundFrom (BytesAt (quotation method) text) (offsetOf text.toList (searchStart interface text.toList)) s.start := by
  have hfound : ∀ s, declaration? interface method text.toList = some s →
      s.Reads (quotation method) text ∧
        FoundFrom (BytesAt (quotation method) text) (offsetOf text.toList (searchStart interface text.toList)) s.start := by
    intro s hs
    obtain ⟨hsource, htext, hends⟩ := declaration?_eq_some hs
    rw [← toList_quotation] at htext
    refine ⟨reads_of_source_eq (quotation_ne_empty method) hsource htext, ?_⟩
    rw [start_eq_offsetOf, hsource]
    refine FoundFrom.offsetOf (quotation_ne_empty method) (searchStart_le_length interface text.toList) ?_
    rw [toList_quotation]
    exact hends
  constructor
  · exact hfound s
  · -- Some span is found, and it is this one: both read the same name from the same offset on.
    rintro ⟨hreads, hends⟩
    have hplace : ∃ place, StandsAt (quotedName method) text.toList place := by
      rw [← toList_quotation, ← exists_bytesAt_iff (quotation_ne_empty method)]
      exact hends.exists
    obtain ⟨s', hs'⟩ := (exists_declaration?_iff interface method text.toList).mpr hplace
    obtain ⟨hreads', hends'⟩ := hfound s' hs'
    rw [hs', hreads'.eq_of_start_eq hreads (hends'.unique hends)]

end Span

/-- **Where a diagnostic points to.** There is a point from which on a method is searched for: where the name of the interface in quotation
marks first stands in the bytes of the text, or the start of the text. A diagnostic has a span exactly when the name of the method in
quotation marks stands somewhere in the text. The span then reads this name at the first offset from that point on, or, where there is
none, at the first one of all. Neither the point nor an end of the span lies outside of the text or inside of a character. -/
theorem span_diagnostic_iff (e : ResolutionError) (text : String) :
    ∃ start, Text.StartsAt (Text.BytesAt (Span.quotation e.interface) text) start ∧ String.Pos.Raw.IsValid text ⟨start⟩ ∧
      ((∃ s, (e.diagnostic (some text)).span = some s) ↔ ∃ offset, Text.BytesAt (Span.quotation e.method) text offset) ∧
      ∀ s, (e.diagnostic (some text)).span = some s ↔
        s.Reads (Span.quotation e.method) text ∧ Text.FoundFrom (Text.BytesAt (Span.quotation e.method) text) start s.start := by
  have hstarts := Span.startsAt_searchStart e.interface text.toList
  rw [← Span.toList_quotation] at hstarts
  refine ⟨_, hstarts.offsetOf (Span.quotation_ne_empty _), Text.isValid_offsetOf text _, ?_, fun s => Span.declaration?_eq_some_iff s⟩
  rw [Text.exists_bytesAt_iff (Span.quotation_ne_empty _), Span.toList_quotation]
  exact Span.exists_declaration?_iff e.interface e.method text.toList

/-- A text with names of more bytes than characters, one of them in front of the interface and in it. -/
def umlautText : String :=
  "\x7b\"größe\":1,\"naïve\":[\"größe\"]\x7d"

/-- What is wrong with a method of that interface. -/
def umlautError : ResolutionError where
  interface := "naïve"
  method := "größe"
  fault := .duplicateMethod

/-- The name is found in the interface, behind more bytes than characters. -/
theorem umlautText_span :
    Text.BytesAt (Span.quotation "größe") umlautText 1 ∧ Text.BytesAt (Span.quotation "größe") umlautText 23 ∧
      ∃ s, (umlautError.diagnostic (some umlautText)).span = some s ∧ s.Reads "\"größe\"" umlautText ∧ s.start = 23 ∧ s.stop = 32 := by
  obtain ⟨hfirst, hsecond, hoffsets⟩ :
      Text.BytesAt (Span.quotation "größe") umlautText 1 ∧ Text.BytesAt (Span.quotation "größe") umlautText 23 ∧
        (umlautError.diagnostic (some umlautText)).span.map (fun s => (s.start, s.stop)) = some (23, 32) := by
    decide +kernel
  obtain ⟨start, -, -, hexists, hspan⟩ := span_diagnostic_iff umlautError umlautText
  obtain ⟨s, hs⟩ := hexists.mpr ⟨1, hfirst⟩
  rw [hs, Option.map_some, Option.some.injEq, Prod.mk.injEq] at hoffsets
  exact ⟨hfirst, hsecond, s, hs, ((hspan s).mp hs).1, hoffsets⟩

end DataRequests
