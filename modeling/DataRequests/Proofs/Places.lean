import DataRequests.Build
import Mathlib.Order.Bounds.Basic

/-!
# Places of diagnostics

A diagnostic points at a quoted name that is searched for in the text of the document (`Span.declaration?`): from the quoted name of the
interface on, and in the whole text when it is not found there. So diagnostics about methods with different names point to different
places. Diagnostics about methods of one name do so when the two interfaces separate the places where that name stands
(`Span.Separated`); when they do not, both searches end at one place (`Span.start_ne_iff`).
-/

namespace DataRequests

/-! ## Where patterns stand -/

namespace Text

/-- A pattern stands in a text behind so many characters. -/
def StandsAt (pattern text : List Char) (place : Nat) : Prop :=
  pattern <+: text.drop place

instance (pattern text : List Char) (place : Nat) : Decidable (StandsAt pattern text place) :=
  inferInstanceAs (Decidable (pattern <+: text.drop place))

variable {pattern text before after : List Char}

/-- A text is cut where the pattern stands first. -/
theorem cutAt_eq_some (h : cutAt pattern text = some (before, after)) :
    text = before ++ pattern ++ after ∧ ∀ place < before.length, ¬StandsAt pattern text place := by
  induction text generalizing before with
  | nil =>
    rw [cutAt] at h
    split at h
    · next hempty =>
      obtain ⟨rfl, rfl⟩ := Prod.mk.inj (Option.some.inj h)
      simpa using hempty
    · cases h
  | cons c rest ih =>
    rw [cutAt] at h
    split at h
    · next hprefix =>
      obtain ⟨rfl, rfl⟩ := Prod.mk.inj (Option.some.inj h)
      obtain ⟨tail, htail⟩ := List.isPrefixOf_iff_prefix.mp hprefix
      refine ⟨?_, fun place hplace => absurd hplace (Nat.not_lt_zero place)⟩
      rw [← htail, List.drop_left, List.nil_append]
    · next hprefix =>
      obtain ⟨⟨before, after⟩, hcut, hpair⟩ := Option.map_eq_some_iff.mp h
      obtain ⟨rfl, rfl⟩ := Prod.mk.inj hpair
      obtain ⟨rfl, hnot⟩ := ih hcut
      refine ⟨rfl, ?_⟩
      intro place hplace hstands
      cases place with
      | zero => exact hprefix (List.isPrefixOf_iff_prefix.mpr hstands)
      | succ place => exact hnot place (by simpa using hplace) hstands

/-- A text that is not cut has the pattern nowhere. -/
theorem not_standsAt_of_cutAt_eq_none (h : cutAt pattern text = none) (place : Nat) : ¬StandsAt pattern text place := by
  induction text generalizing place with
  | nil =>
    rw [cutAt] at h
    intro hstands
    have hempty : pattern = [] := by simpa [StandsAt] using hstands
    simp [hempty] at h
  | cons c rest ih =>
    rw [cutAt] at h
    split at h
    · cases h
    · next hprefix =>
      cases place with
      | zero => exact fun hstands => hprefix (List.isPrefixOf_iff_prefix.mpr hstands)
      | succ place => exact ih (Option.map_eq_none_iff.mp h) place

/-- A pattern stands in a text where it stands in a later part of it. -/
theorem standsAt_append_iff (place : Nat) :
    StandsAt pattern (before ++ text) (before.length + place) ↔ StandsAt pattern text place := by
  rw [StandsAt, StandsAt, ← List.drop_drop, List.drop_left]

theorem byteLength_append (a b : List Char) : byteLength (a ++ b) = byteLength a + byteLength b := by
  induction a with
  | nil => exact (Nat.zero_add _).symm
  | cons c rest ih => rw [List.cons_append, byteLength, byteLength, ih, Nat.add_assoc]

/-- Only the empty text takes no byte. -/
theorem eq_nil_of_byteLength_eq_zero {cs : List Char} (h : byteLength cs = 0) : cs = [] := by
  cases cs with
  | nil => rfl
  | cons c rest =>
    have hsize : 0 < c.utf8Size := c.utf8Size_pos
    rw [byteLength] at h
    omega

/-- Offsets in bytes tell places in a text apart. -/
theorem eq_of_byteLength_eq {a b : List Char} (ha : a <+: text) (hb : b <+: text) (h : byteLength a = byteLength b) : a = b := by
  rcases List.prefix_or_prefix_of_prefix ha hb with ⟨tail, rfl⟩ | ⟨tail, rfl⟩
  all_goals
    rw [byteLength_append] at h
    rw [eq_nil_of_byteLength_eq_zero (by omega : byteLength tail = 0), List.append_nil]

/-! ## Searches -/

variable {stands : Nat → Prop} {start start' place place' : Nat}

/-- Where a search from a place on ends: at the first place from there on, or else at the first place of all. -/
def FoundFrom (stands : Nat → Prop) (start place : Nat) : Prop :=
  IsLeast {place | start ≤ place ∧ stands place} place ∨ (∀ place, start ≤ place → ¬stands place) ∧ IsLeast {place | stands place} place

/-- A search from a place on ends at one place. -/
theorem FoundFrom.unique (h : FoundFrom stands start place) (h' : FoundFrom stands start place') : place = place' := by
  rcases h with h | ⟨hnot, h⟩
  · rcases h' with h' | ⟨hnot', -⟩
    · exact h.unique h'
    · exact absurd h.1.2 (hnot' place h.1.1)
  · rcases h' with h' | ⟨-, h'⟩
    · exact absurd h'.1.2 (hnot place' h'.1.1)
    · exact h.unique h'

/-- A search ends where something stands. -/
theorem FoundFrom.exists (h : FoundFrom stands start place) : ∃ place, stands place := by
  rcases h with h | ⟨-, h⟩
  · exact ⟨place, h.1.2⟩
  · exact ⟨place, h.1⟩

/-- A search may start earlier when it passes no place where something stands. -/
theorem FoundFrom.of_none_between (hle : start ≤ start') (hnone : ∀ other, stands other → start ≤ other → start' ≤ other)
    (h : FoundFrom stands start' place) : FoundFrom stands start place := by
  rcases h with h | ⟨hnot, h⟩
  · exact .inl ⟨⟨hle.trans h.1.1, h.1.2⟩, fun other hother => h.2 ⟨hnone other hother.2 hother.1, hother.2⟩⟩
  · exact .inr ⟨fun other hstart hother => hnot other (hnone other hother hstart) hother, h⟩

/-- A search that starts before all places where something stands ends at the first of them, and so does one that starts behind all. -/
theorem FoundFrom.isLeast (h : FoundFrom stands start place)
    (hall : (∀ other, stands other → start ≤ other) ∨ ∀ other, stands other → other < start) :
    IsLeast {place | stands place} place := by
  rcases h with ⟨⟨hstart, hplace⟩, hleast⟩ | ⟨-, h⟩
  · refine ⟨hplace, fun other hother => ?_⟩
    rcases hall with hbefore | hbehind
    · exact hleast ⟨hbefore other hother, hother⟩
    · exact absurd (hbehind place hplace) (not_lt.mpr hstart)
  · exact h

/-- Two searches end apart exactly when something stands between the places where they start, and elsewhere too. -/
theorem FoundFrom.ne_iff (hle : start ≤ start') (h : FoundFrom stands start place) (h' : FoundFrom stands start' place') :
    place ≠ place' ↔
      (∃ other, stands other ∧ start ≤ other ∧ other < start') ∧ ∃ other, stands other ∧ ¬(start ≤ other ∧ other < start') := by
  constructor
  · intro hne
    refine ⟨?_, ?_⟩
    · by_contra hnone
      refine hne (h.unique (h'.of_none_between hle fun other hother hstart => ?_))
      by_contra hlt
      exact hnone ⟨other, hother, hstart, not_le.mp hlt⟩
    · -- When something stands between the starts only, the later search goes back to where the earlier one ends.
      by_contra hnone
      have hall : ∀ other, stands other → start ≤ other ∧ other < start' := by
        intro other hother
        by_contra hout
        exact hnone ⟨other, hother, hout⟩
      exact hne ((h.isLeast (.inl fun other hother => (hall other hother).1)).unique
        (h'.isLeast (.inr fun other hother => (hall other hother).2)))
  · rintro ⟨⟨other, hother, hstart, hlt⟩, further, hfurther, hout⟩ rfl
    have hplace : start ≤ place ∧ place ≤ other := by
      rcases h with h | ⟨hnot, -⟩
      · exact ⟨h.1.1, h.2 ⟨hstart, hother⟩⟩
      · exact absurd hother (hnot other hstart)
    rcases h' with h' | ⟨hnot, hleast⟩
    · have hbehind : start' ≤ place := h'.1.1
      omega
    · have hbefore : further < start' := not_le.mp fun hbehind => hnot further hbehind hfurther
      have hfirst : place ≤ further := hleast.2 hfurther
      omega

end Text

namespace Span

open Text

variable {interface interface' method method' : String} {text : List Char} {s s' : Span}

/-! ## Where a search ends -/

/-- How many characters stand before the place where the search for the methods of an interface starts. -/
def searchStart (interface : String) (text : List Char) : Nat :=
  (cutBefore interface text).1.length

theorem cutBefore_append (name : String) (text : List Char) : (cutBefore name text).1 ++ (cutBefore name text).2 = text := by
  rw [cutBefore]
  split
  · next before after hcut => rw [(cutAt_eq_some hcut).1, List.append_assoc]
  · rfl

/-- What is found stands first in the part of the text that is searched. -/
theorem first?_eq_some {pattern before rest : List Char} (h : first? pattern before rest = some s) :
    s.source = before ++ rest ∧ s.text = pattern ∧
      IsLeast {place | before.length ≤ place ∧ StandsAt pattern (before ++ rest) place} s.before.length := by
  obtain ⟨⟨skipped, after⟩, hcut, rfl⟩ := Option.map_eq_some_iff.mp h
  obtain ⟨rfl, hnot⟩ := cutAt_eq_some hcut
  refine ⟨by simp [source], rfl, ⟨by simp, ?_⟩, ?_⟩
  · show StandsAt pattern _ (before ++ skipped).length
    rw [List.length_append, standsAt_append_iff, StandsAt, List.append_assoc, List.drop_left]
    exact List.prefix_append pattern after
  · rintro place ⟨hplace, hstands⟩
    obtain ⟨further, rfl⟩ := Nat.exists_eq_add_of_le hplace
    rw [standsAt_append_iff] at hstands
    show (before ++ skipped).length ≤ _
    rw [List.length_append]
    by_contra hlt
    exact hnot further (by omega) hstands

/-- When nothing is found, the pattern does not stand in the part of the text that is searched. -/
theorem not_standsAt_of_first?_eq_none {pattern before rest : List Char} (h : first? pattern before rest = none) :
    ∀ place, before.length ≤ place → ¬StandsAt pattern (before ++ rest) place := by
  intro place hplace hstands
  obtain ⟨further, rfl⟩ := Nat.exists_eq_add_of_le hplace
  rw [standsAt_append_iff] at hstands
  exact not_standsAt_of_cutAt_eq_none (Option.map_eq_none_iff.mp h) further hstands

/-- The span of a declaration is a stretch of the text that reads the quoted name of the method, where the search for it ends. -/
theorem declaration?_eq_some (h : declaration? interface method text = some s) :
    s.source = text ∧ s.text = quotedName method ∧
      FoundFrom (StandsAt (quotedName method) text) (searchStart interface text) s.before.length := by
  rw [declaration?, Option.or_eq_some_iff] at h
  rcases h with hfound | ⟨hnone, hfound⟩
  · obtain ⟨hsource, htext, hleast⟩ := first?_eq_some hfound
    rw [cutBefore_append] at hsource hleast
    exact ⟨hsource, htext, .inl hleast⟩
  · obtain ⟨hsource, htext, hleast⟩ := first?_eq_some hfound
    have hnot := not_standsAt_of_first?_eq_none hnone
    rw [cutBefore_append] at hnot
    refine ⟨hsource, htext, .inr ⟨hnot, ?_⟩⟩
    simpa using hleast

/-! ## When searches end apart -/

/-- A place lies between two others, the first of them included. -/
def Between (start start' place : Nat) : Prop :=
  min start start' ≤ place ∧ place < max start start'

instance (start start' place : Nat) : Decidable (Between start start' place) :=
  inferInstanceAs (Decidable (_ ∧ _))

/-- Two interfaces separate the places of a method: its quoted name stands between the places where the searches for their methods
start, and elsewhere too. -/
def Separated (interface interface' method : String) (text : List Char) : Prop :=
  (∃ place, StandsAt (quotedName method) text place ∧ Between (searchStart interface text) (searchStart interface' text) place) ∧
    ∃ place, StandsAt (quotedName method) text place ∧ ¬Between (searchStart interface text) (searchStart interface' text) place

/-! ## Offsets -/

/-- What stands before a span stands at the start of its text. -/
theorem before_prefix_source (s : Span) : s.before <+: s.source :=
  ⟨s.text ++ s.after, (List.append_assoc ..).symm⟩

/-- Two spans of one text that start at one offset have the same text before them. -/
theorem before_eq_of_start_eq (hsource : s.source = s'.source) (hstart : s.start = s'.start) : s.before = s'.before :=
  eq_of_byteLength_eq s.before_prefix_source (hsource ▸ s'.before_prefix_source) hstart

/-- Two spans of one text start at one offset exactly when as many characters stand before them. -/
theorem start_eq_iff (hsource : s.source = s'.source) : s.start = s'.start ↔ s.before.length = s'.before.length := by
  constructor
  · intro hstart
    rw [before_eq_of_start_eq hsource hstart]
  · intro hlength
    have hbefore : s.before = s'.before := by
      rw [List.prefix_iff_eq_take.mp s.before_prefix_source, List.prefix_iff_eq_take.mp s'.before_prefix_source, hlength, hsource]
    rw [start, start, hbefore]

/-- Two spans of one text with the same offsets read the same. -/
theorem text_eq_of_offsets_eq (hsource : s.source = s'.source) (hstart : s.start = s'.start) (hstop : s.stop = s'.stop) :
    s.text = s'.text := by
  rw [source, source, before_eq_of_start_eq hsource hstart, List.append_assoc, List.append_assoc,
    List.append_cancel_left_eq] at hsource
  refine eq_of_byteLength_eq ⟨s.after, rfl⟩ ⟨s'.after, hsource.symm⟩ ?_
  rw [stop, stop, hstart] at hstop
  exact Nat.add_left_cancel hstop

/-- Different names are quoted differently. -/
theorem quotedName_inj {name name' : String} (h : quotedName name = quotedName name') : name = name' := by
  rw [quotedName, quotedName, List.cons.injEq, List.append_cancel_right_eq] at h
  exact String.toList_injective h.2

/-! ## Spans of declarations -/

/-- Declarations of one name in two interfaces have different spans exactly when the interfaces separate the places of the name. -/
theorem start_ne_iff (hs : declaration? interface method text = some s) (hs' : declaration? interface' method text = some s') :
    s.start ≠ s'.start ↔ Separated interface interface' method text := by
  obtain ⟨hsource, -, hends⟩ := declaration?_eq_some hs
  obtain ⟨hsource', -, hends'⟩ := declaration?_eq_some hs'
  rw [ne_eq, start_eq_iff (hsource.trans hsource'.symm), Separated]
  rcases le_total (searchStart interface text) (searchStart interface' text) with hle | hle
  · simp only [Between, min_eq_left hle, max_eq_right hle]
    exact hends.ne_iff hle hends'
  · simp only [Between, min_eq_right hle, max_eq_left hle]
    exact ne_comm.trans (hends'.ne_iff hle hends)

/-- Two declarations have different spans exactly when their names differ, or the interfaces separate the places of the name. -/
theorem offsets_ne_iff (hs : declaration? interface method text = some s) (hs' : declaration? interface' method' text = some s') :
    (s.start, s.stop) ≠ (s'.start, s'.stop) ↔ method ≠ method' ∨ Separated interface interface' method text := by
  obtain ⟨hsource, htext, -⟩ := declaration?_eq_some hs
  obtain ⟨hsource', htext', -⟩ := declaration?_eq_some hs'
  by_cases hmethod : method = method'
  · subst hmethod
    have hstop : s.start = s'.start → s.stop = s'.stop := by
      intro hstart
      rw [stop, stop, hstart, htext, htext']
    rw [← start_ne_iff hs hs']
    simp only [ne_eq, not_true_eq_false, false_or, Prod.mk.injEq, not_and]
    exact ⟨fun h hstart => h hstart (hstop hstart), fun h hstart => absurd hstart h⟩
  · refine iff_of_true ?_ (.inl hmethod)
    intro hoffsets
    obtain ⟨hstart, hstop⟩ := Prod.mk.inj hoffsets
    have hquoted := text_eq_of_offsets_eq (hsource.trans hsource'.symm) hstart hstop
    rw [htext, htext'] at hquoted
    exact hmethod (quotedName_inj hquoted)

end Span

/-! ## Diagnostics -/

/-- **Diagnostics about different declarations point to different places**, when the methods have different names or the interfaces
separate the places where their one name stands. -/
theorem offsets_ne_of_build (text : String) (outer : Defaults) (errors : List ResolutionError) :
    buildText text outer = .error (.faulty errors) →
      ∀ e ∈ errors, ∀ e' ∈ errors, (e.interface, e.method) ≠ (e'.interface, e'.method) →
        (e.method = e'.method → Span.Separated e.interface e'.interface e.method text.toList) →
        ∀ s s', (e.diagnostic (some text)).span = some s → (e'.diagnostic (some text)).span = some s' →
          (s.start, s.stop) ≠ (s'.start, s'.stop) := by
  intro _ e _ e' _ _ happart s s' hs hs'
  rw [Span.offsets_ne_iff hs hs']
  by_cases hmethod : e.method = e'.method
  · exact .inr (happart hmethod)
  · exact .inl hmethod

/-- The methods of an interface: one without a source. -/
def getMethods : String :=
  "\"methods\":[\x7b\"name\":\"get\",\"return-type\":\x7b\"name\":\"Note\"\x7d\x7d]"

/-- What is wrong with it. -/
def getError (interface : String) : ResolutionError where
  interface := interface
  method := "get"
  fault := .missingSourceIntent false

/-- The text of two interfaces with these methods. -/
def nameFirst : String :=
  "\x7b\"interfaces\":[\x7b\"name\":\"A\"," ++ getMethods ++ "\x7d,\x7b\"name\":\"B\"," ++ getMethods ++ "\x7d]\x7d"

/-- The same with the name of the second interface behind its methods. -/
def nameLast : String :=
  "\x7b\"interfaces\":[\x7b\"name\":\"A\"," ++ getMethods ++ "\x7d,\x7b" ++ getMethods ++ ",\"name\":\"B\"\x7d]\x7d"

/-- When each interface starts with its name, each method is pointed at in its own interface. -/
theorem nameFirst_offsets_ne :
    buildText nameFirst {} = .error (.faulty [getError "A", getError "B"]) ∧ Span.Separated "A" "B" "get" nameFirst.toList ∧
      ∃ s s', ((getError "A").diagnostic (some nameFirst)).span = some s ∧
        ((getError "B").diagnostic (some nameFirst)).span = some s' ∧ (s.start, s.stop) ≠ (s'.start, s'.stop) := by
  obtain ⟨hbuild, hbetween, hbehind, hspan, hspan'⟩ :
      buildText nameFirst {} = .error (.faulty [getError "A", getError "B"]) ∧
      (Text.StandsAt (Span.quotedName "get") nameFirst.toList 46 ∧
        Span.Between (Span.searchStart "A" nameFirst.toList) (Span.searchStart "B" nameFirst.toList) 46) ∧
      (Text.StandsAt (Span.quotedName "get") nameFirst.toList 116 ∧
        ¬Span.Between (Span.searchStart "A" nameFirst.toList) (Span.searchStart "B" nameFirst.toList) 116) ∧
      ((getError "A").diagnostic (some nameFirst)).span.isSome = true ∧
      ((getError "B").diagnostic (some nameFirst)).span.isSome = true := by
    decide +kernel
  obtain ⟨s, hs⟩ := Option.isSome_iff_exists.mp hspan
  obtain ⟨s', hs'⟩ := Option.isSome_iff_exists.mp hspan'
  have hseparated : Span.Separated "A" "B" "get" nameFirst.toList := ⟨⟨46, hbetween⟩, 116, hbehind⟩
  exact ⟨hbuild, hseparated, s, s', hs, hs',
    offsets_ne_of_build nameFirst {} _ hbuild (getError "A") (by simp) (getError "B") (by simp) (by decide)
      (fun _ => hseparated) s s' hs hs'⟩

/-- When an interface ends with its name, the search for its method goes back to the start of the text, and the method is pointed at in
another interface. -/
theorem nameLast_not_offsets_ne :
    ¬∀ (text : String) (outer : Defaults) (errors : List ResolutionError), buildText text outer = .error (.faulty errors) →
      ∀ e ∈ errors, ∀ e' ∈ errors, (e.interface, e.method) ≠ (e'.interface, e'.method) →
        ∀ s s', (e.diagnostic (some text)).span = some s → (e'.diagnostic (some text)).span = some s' →
          (s.start, s.stop) ≠ (s'.start, s'.stop) := by
  intro hall
  obtain ⟨hbuild, hspan, hsame⟩ :
      buildText nameLast {} = .error (.faulty [getError "A", getError "B"]) ∧
      ((getError "A").diagnostic (some nameLast)).span.isSome = true ∧
      ((getError "B").diagnostic (some nameLast)).span = ((getError "A").diagnostic (some nameLast)).span := by
    decide +kernel
  obtain ⟨s, hs⟩ := Option.isSome_iff_exists.mp hspan
  exact hall nameLast {} _ hbuild (getError "A") (by simp) (getError "B") (by simp) (by decide) s s hs (hsame.trans hs) rfl

end DataRequests
