import DataRequests.Resolution.Scan
import Mathlib.Data.List.Basic

/-!
# Names in lower camel case

A name that is in lower camel case already is left as it is (`Text.lowerCamelCase_eq_self`). Cutting a stretch into words loses
no character and starts every further word at a capital; in such a name the capitals stand nowhere else. So the field of a
delegate has the name of its method in it, letter by letter, and different names of this form give different fields
(`storageFieldName_eq`).
-/

namespace DataRequests.Text

/-- Whether a character is a small letter. -/
def isSmall (c : Char) : Bool :=
  isLower c && !isUpper c

/-- Whether lower camel case leaves a character as it is, which comes after one of a given case: a capital only where a word
starts, which is after a small letter, and after another capital if a small letter follows. -/
def keepsCase (mode : CaseMode) (c : Char) (next : Option Char) : Bool :=
  if isUpper c then toUpper c = [c] && (mode = .lower || mode = .upper && next.any isSmall) else toLower c = [c]

/-- Whether the rest of a name is in lower camel case, after a character of a given case. -/
def isCamelAfter (mode : CaseMode) : List Char → Bool
  | [] => true
  | c :: rest => isAlphanumeric c && keepsCase mode c rest.head? && isCamelAfter (mode.after c) rest

/-- Whether a name is in lower camel case: it starts with a small letter, and words start where the capitals are. -/
def isLowerCamel (name : String) : Bool :=
  name.toList.head?.any isSmall && isCamelAfter .none name.toList

/-! ## Words -/

/-- The words of a stretch have its characters, and each further one starts with a capital. -/
theorem splitCase_words (mode : CaseMode) (word : List Char) {cs : List Char} (hcs : cs ≠ [])
    (hword : mode = .upper → word ≠ []) :
    ∃ first more, splitCase mode word cs = first :: more ∧ first ++ more.flatten = word.reverse ++ cs ∧ first ≠ [] ∧
      ∀ w ∈ more, ∃ c rest, w = c :: rest ∧ isUpper c = true := by
  fun_induction splitCase mode word cs with
  | case1 => exact absurd rfl hcs
  | case2 mode word c => exact ⟨_, _, rfl, by simp, by simp, by simp⟩
  | case3 mode word c next rest hcut ih =>
    obtain ⟨first, more, hsplit, hchars, hfirst, hmore⟩ := ih (by simp) nofun
    obtain ⟨d, tail, rfl⟩ := List.exists_cons_of_ne_nil hfirst
    obtain ⟨rfl, hrest⟩ : d = next ∧ tail ++ more.flatten = rest := by simpa using hchars
    refine ⟨_, _, rfl, by simp [hsplit, hrest], by simp, ?_⟩
    rw [hsplit]
    intro w hw
    rcases List.mem_cons.mp hw with rfl | hw
    · exact ⟨d, tail, rfl, hcut.2⟩
    · exact hmore w hw
  | case4 mode word c next rest _ hcut ih =>
    obtain ⟨first, more, hsplit, hchars, hfirst, hmore⟩ := ih (by simp) nofun
    obtain ⟨d, tail, rfl⟩ := List.exists_cons_of_ne_nil hfirst
    obtain ⟨rfl, hrest⟩ : d = c ∧ tail ++ more.flatten = next :: rest := by simpa using hchars
    refine ⟨_, _, rfl, by simp [hsplit, hrest], by simpa using hword hcut.1, ?_⟩
    rw [hsplit]
    intro w hw
    rcases List.mem_cons.mp hw with rfl | hw
    · exact ⟨d, tail, rfl, hcut.2.1⟩
    · exact hmore w hw
  | case5 mode word c next rest _ _ ih =>
    obtain ⟨first, more, hsplit, hchars, hfirst, hmore⟩ := ih (by simp) (by simp)
    exact ⟨first, more, hsplit, by simpa using hchars, hfirst, hmore⟩

/-- A word under way knows the case of the last character of the name that has one (`mode`), unless it has just been started at
a capital. A capital that comes after a small letter has started a word. -/
def Tracks (mode inWord : CaseMode) (word cs : List Char) : Prop :=
  inWord = mode ∧ (mode = .lower → cs.head?.any isUpper = false) ∨
    inWord = .none ∧ (word = [] ∧ cs.head?.any isUpper = true ∨ cs.head?.any isSmall = true)

/-- The next character brings the word and the name to the same case. -/
theorem Tracks.after_eq {mode inWord : CaseMode} {word rest : List Char} {c : Char} (h : Tracks mode inWord word (c :: rest)) :
    inWord.after c = mode.after c := by
  rcases h with ⟨rfl, -⟩ | ⟨-, ⟨-, hupper⟩ | hsmall⟩
  · rfl
  · have hupper : isUpper c = true := by simpa using hupper
    simp [CaseMode.after, hupper]
  · have hlower : isLower c = true := by
      have hsmall : isSmall c = true := by simpa using hsmall
      exact (Bool.and_eq_true_iff.mp hsmall).1
    simp [CaseMode.after, hlower]

/-- A character that does not start a word is no capital. -/
theorem Tracks.isUpper_eq_false {mode inWord : CaseMode} {word rest : List Char} {c : Char}
    (h : Tracks mode inWord word (c :: rest)) (hkeeps : keepsCase mode c rest.head? = true) (hword : word ≠ [])
    (hcut : inWord = .upper → isUpper c = true → rest.head?.any isSmall = false) : isUpper c = false := by
  by_contra hne
  have hupper : isUpper c = true := by simpa using hne
  rcases h with ⟨rfl, hafter⟩ | ⟨-, ⟨hnil, -⟩ | hsmall⟩
  · simp only [keepsCase, hupper, if_true, Bool.and_eq_true, Bool.or_eq_true, decide_eq_true_eq] at hkeeps
    rcases hkeeps.2 with hlower | ⟨hmode, hsmall⟩
    · exact hne (by simpa using hafter hlower)
    · exact Bool.false_ne_true ((hcut hmode hupper).symm.trans hsmall)
  · exact hword hnil
  · have hsmall : isSmall c = true := by simpa using hsmall
    simp [isSmall, hupper] at hsmall

/-- In lower camel case a word has no capital but its first character. -/
theorem tail_of_mem_splitCase {mode inWord : CaseMode} {word cs : List Char} (hcamel : isCamelAfter mode cs = true)
    (htracks : Tracks mode inWord word cs) (hword : ∀ c ∈ word.reverse.tail, isUpper c = false) :
    ∀ w ∈ splitCase inWord word cs, ∀ c ∈ w.tail, isUpper c = false := by
  -- a character goes on with the word under way, which then has no further capital
  have hpush : ∀ {word : List Char} {c : Char}, (∀ x ∈ word.reverse.tail, isUpper x = false) → (word ≠ [] → isUpper c = false) →
      ∀ x ∈ (c :: word).reverse.tail, isUpper x = false := by
    intro word c hword hc x hx
    rw [List.reverse_cons] at hx
    by_cases hnil : word = []
    · simp [hnil] at hx
    · rw [List.tail_append_of_ne_nil (by simpa using hnil)] at hx
      rcases List.mem_append.mp hx with hx | hx
      · exact hword x hx
      · exact List.mem_singleton.mp hx ▸ hc hnil
  fun_induction splitCase inWord word cs generalizing mode with
  | case1 => simp
  | case2 inWord word c =>
    simp only [isCamelAfter, Bool.and_eq_true] at hcamel
    intro w hw
    rw [List.mem_singleton.mp hw]
    exact hpush hword fun hne => htracks.isUpper_eq_false hcamel.1.2 hne (by simp)
  | case3 inWord word c next rest hcut ih =>
    rw [isCamelAfter, Bool.and_eq_true, Bool.and_eq_true] at hcamel
    have hafter : mode.after c = .lower := htracks.after_eq ▸ hcut.1
    intro w hw
    rcases List.mem_cons.mp hw with rfl | hw
    · refine hpush hword fun hne => htracks.isUpper_eq_false hcamel.1.2 hne fun _ _ => ?_
      simp [isSmall, hcut.2]
    · exact ih hcamel.2 (Or.inr ⟨rfl, Or.inl ⟨rfl, by simpa using hcut.2⟩⟩) (by simp) w hw
  | case4 inWord word c next rest _ hcut ih =>
    rw [isCamelAfter, Bool.and_eq_true, Bool.and_eq_true] at hcamel
    have hsmall : isSmall next = true := by
      rcases htracks with ⟨rfl, -⟩ | ⟨hnone, -⟩
      · have hkeeps : toUpper c = [c] ∧ isSmall next = true := by simpa [keepsCase, hcut.1, hcut.2.1] using hcamel.1.2
        exact hkeeps.2
      · cases hnone.symm.trans hcut.1
    intro w hw
    rcases List.mem_cons.mp hw with rfl | hw
    · exact hword
    · exact ih hcamel.2 (Or.inr ⟨rfl, Or.inr (by simpa using hsmall)⟩) (by simp) w hw
  | case5 inWord word c next rest hsame hcut ih =>
    rw [isCamelAfter, Bool.and_eq_true, Bool.and_eq_true] at hcamel
    refine ih hcamel.2 (Or.inl ⟨htracks.after_eq, ?_⟩) (hpush hword ?_)
    · intro hlower
      have hnext : ¬isUpper next = true := fun hupper => hsame ⟨htracks.after_eq.trans hlower, hupper⟩
      simpa using hnext
    · refine fun hne => htracks.isUpper_eq_false hcamel.1.2 hne fun hmode hupper => ?_
      have hnext : ¬isLower next = true := fun hlower => hcut ⟨hmode, hupper, hlower⟩
      simp [isSmall, hnext]

/-! ## Spelling -/

/-- A character that no change of spelling touches is written in lower case as it is, unless it is a capital. -/
theorem lowerWord_eq_self {w : List Char} (h : ∀ c ∈ w, isUpper c = false ∧ toLower c = [c]) : lowerWord w = w := by
  fun_induction lowerWord w with
  | case1 => rfl
  | case2 =>
    have hsigma : isUpper 'Σ' = false := (h 'Σ' (by simp)).1
    exact absurd hsigma (by decide)
  | case3 c hc => exact (h c (by simp)).2
  | case4 c rest hrest ih =>
    rw [(h c (by simp)).2, ih fun d hd => h d (by simp [hd])]
    rfl

/-- What the characters of a name in lower camel case have in common. -/
theorem of_mem_of_isCamelAfter {mode : CaseMode} {cs : List Char} (h : isCamelAfter mode cs = true) :
    ∀ c ∈ cs, isAlphanumeric c = true ∧ if isUpper c then toUpper c = [c] else toLower c = [c] := by
  induction cs generalizing mode with
  | nil => simp
  | cons c rest ih =>
    rw [isCamelAfter, Bool.and_eq_true, Bool.and_eq_true] at h
    intro d hd
    rcases List.mem_cons.mp hd with rfl | hd
    · refine ⟨h.1.1, ?_⟩
      have hkeeps := h.1.2
      unfold keepsCase at hkeeps
      split at hkeeps
      · simp_all
      · simp_all
    · exact ih h.2 d hd

/-- A text of alphanumeric characters is one stretch. -/
theorem stretches_eq {cs : List Char} (h : ∀ c ∈ cs, isAlphanumeric c = true) : stretches cs = [cs] := by
  induction cs with
  | nil => rfl
  | cons c rest ih =>
    rw [stretches, ih fun d hd => h d (by simp [hd])]
    simp [h c (by simp)]

/-- Lower camel case leaves a name alone that is in lower camel case. -/
theorem lowerCamelCase_eq_self {s : String} (h : isLowerCamel s = true) : lowerCamelCase s = s := by
  obtain ⟨hhead, hcamel⟩ := Bool.and_eq_true_iff.mp h
  have hchars := of_mem_of_isCamelAfter hcamel
  have hne : s.toList ≠ [] := by
    intro hnil
    simp [hnil] at hhead
  obtain ⟨first, more, hsplit, hjoin, hfirst, hmore⟩ := splitCase_words .none [] hne nofun
  have hstart : Tracks .none .none [] s.toList := Or.inl ⟨rfl, nofun⟩
  have htail := tail_of_mem_splitCase hcamel hstart (by simp)
  rw [hsplit] at htail
  rw [List.reverse_nil, List.nil_append] at hjoin
  have hlower : ∀ c ∈ s.toList, isUpper c = false → toLower c = [c] := by
    intro c hc hupper
    simpa [hupper] using (hchars c hc).2
  have hfirstWord : lowerWord first = first := by
    obtain ⟨c, rest, rfl⟩ := List.exists_cons_of_ne_nil hfirst
    have hc : isUpper c = false := by
      rw [← hjoin] at hhead
      have hsmall : isSmall c = true := by simpa using hhead
      simpa using (Bool.and_eq_true_iff.mp hsmall).2
    refine lowerWord_eq_self fun d hd => ?_
    have hupper : isUpper d = false := by
      rcases List.mem_cons.mp hd with rfl | hd
      · exact hc
      · exact htail _ List.mem_cons_self d hd
    exact ⟨hupper, hlower d (hjoin ▸ List.mem_append_left _ hd) hupper⟩
  have hfurther : ∀ w ∈ more, capitalWord w = w := by
    intro w hw
    have hmem : ∀ d ∈ w, d ∈ s.toList := fun d hd => hjoin ▸ List.mem_append_right _ (List.mem_flatten_of_mem hw hd)
    obtain ⟨c, rest, rfl, hc⟩ := hmore w hw
    have hrest : ∀ d ∈ rest, isUpper d = false := htail _ (List.mem_cons_of_mem first hw)
    have hcapital : toUpper c = [c] := by simpa [hc] using (hchars c (hmem c (by simp))).2
    rw [capitalWord, hcapital, lowerWord_eq_self fun d hd => ⟨hrest d hd, hlower d (hmem d (by simp [hd])) (hrest d hd)⟩]
    rfl
  have hwords : wordsOf s.toList = first :: more := by
    rw [wordsOf, stretches_eq fun c hc => (hchars c hc).1]
    simpa using hsplit
  rw [lowerCamelCase, hwords]
  simp only [hfirstWord]
  rw [List.flatMap_congr hfurther, List.flatMap_id', hjoin, String.ofList_toList]

/-! ## Names with a further word -/

/-- A name in lower camel case may go on with what is in lower camel case after letters of either case. -/
theorem isCamelAfter_append {suffix : List Char} (hsuffix : ∀ mode, mode ≠ .none → isCamelAfter mode suffix = true)
    {mode : CaseMode} {cs : List Char} (hmode : mode ≠ .none) (h : isCamelAfter mode cs = true) :
    isCamelAfter mode (cs ++ suffix) = true := by
  induction cs generalizing mode with
  | nil => exact hsuffix mode hmode
  | cons c rest ih =>
    rw [isCamelAfter, Bool.and_eq_true, Bool.and_eq_true] at h
    obtain ⟨⟨halphanumeric, hkeeps⟩, hrest⟩ := h
    have hafter : mode.after c ≠ .none := by
      unfold CaseMode.after
      split
      · nofun
      · split
        · nofun
        · exact hmode
    have hnext : keepsCase mode c (rest ++ suffix).head? = true := by
      cases rest with
      | cons d more => exact hkeeps
      | nil =>
        -- a capital at the end comes after a small letter
        unfold keepsCase at hkeeps ⊢
        split at hkeeps
        · rename_i hupper
          simp_all
        · rename_i hupper
          simp_all
    rw [List.cons_append, isCamelAfter, halphanumeric, hnext, ih hafter hrest]
    rfl

end DataRequests.Text

namespace DataRequests

open Text in
/-- The field that keeps the delegate of a method whose name is in lower camel case has the name of the method in it as it is. -/
theorem storageFieldName_eq {method : String} (h : isLowerCamel method = true) :
    storageFieldName method = method ++ "StoreDelegate" := by
  apply lowerCamelCase_eq_self
  obtain ⟨hhead, hcamel⟩ := Bool.and_eq_true_iff.mp h
  unfold isLowerCamel
  rw [String.toList_append]
  cases hname : method.toList with
  | nil => simp [hname] at hhead
  | cons c rest =>
    rw [hname] at hhead hcamel
    have hsmall : isSmall c = true := by simpa using hhead
    obtain ⟨hlower, hupper⟩ := Bool.and_eq_true_iff.mp hsmall
    have hafter : CaseMode.none.after c = .lower := if_pos hlower
    rw [isCamelAfter, hafter, Bool.and_eq_true, Bool.and_eq_true] at hcamel
    obtain ⟨⟨halphanumeric, hkeeps⟩, hrest⟩ := hcamel
    have hnext : keepsCase .none c (rest ++ "StoreDelegate".toList).head? = true := by
      have hupper : isUpper c = false := by simpa using hupper
      simpa [keepsCase, hupper] using hkeeps
    have hsuffix : ∀ mode, mode ≠ .none → isCamelAfter mode "StoreDelegate".toList = true := by
      intro mode hmode
      cases mode with
      | none => exact absurd rfl hmode
      | lower => decide
      | upper => decide
    have hlast : isCamelAfter .lower (rest ++ "StoreDelegate".toList) = true := isCamelAfter_append hsuffix nofun hrest
    rw [List.cons_append, isCamelAfter, halphanumeric, hnext, hafter, hlast]
    simp [hsmall]

/-- Different names in lower camel case give different fields. -/
theorem storageFieldName_inj {method other : String} (hmethod : Text.isLowerCamel method = true)
    (hother : Text.isLowerCamel other = true) (h : storageFieldName method = storageFieldName other) : method = other := by
  rw [storageFieldName_eq hmethod, storageFieldName_eq hother] at h
  exact (String.append_left_inj _).mp h

end DataRequests
