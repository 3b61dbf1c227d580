import DataRequests.Proofs.Admission

/-!
# What readers take from a text

A reader takes its value from the front of a text and looks at most at the character behind it, which tells where a number ends. So
when it succeeds, it gives the same value for any text that begins with the same part and goes on in a way that ends numbers too
(`Takes`). The cases of a reader are put together by `Takes.next` and `Takes.ite`; where a reader repeats itself, the steps that it is
allowed are counted by the length of what it takes (`TakesIn`).
-/

namespace DataRequests.Json

variable {α β : Type}

/-! ## Texts that go on alike -/

/-- No number goes on here. -/
def Ends (cs : List Char) : Prop :=
  ∀ c, cs.head? = some c → c.isDigit = false ∧ c ≠ '.' ∧ c ≠ 'e' ∧ c ≠ 'E'

/-- The second text goes on like the first as far as a number can tell: with the same character, or with one that ends it. -/
def Meets (rest rest' : List Char) : Prop :=
  rest'.head? = rest.head? ∨ Ends rest'

/-- A text goes on like itself. -/
theorem Meets.refl (rest : List Char) : Meets rest rest :=
  .inl rfl

/-- Texts that go on alike still do behind one more part. -/
theorem Meets.append {rest rest' : List Char} (h : Meets rest rest') (p : List Char) : Meets (p ++ rest) (p ++ rest') := by
  cases p with
  | nil => exact h
  | cons c p => exact .inl rfl

/-- Texts with the same part in front and the same character behind it. -/
theorem Meets.middle (p : List Char) (c : Char) (rest rest' : List Char) : Meets (p ++ c :: rest) (p ++ c :: rest') :=
  Meets.append (show Meets (c :: rest) (c :: rest') from .inl rfl) p

/-! ## Readers -/

/-- A reader takes so many characters at least, and what it gives for them does not depend on what follows. -/
def Takes (least : Nat) (read : Reader α) : Prop :=
  ∀ cs v rest, read cs = .ok (v, rest) →
    ∃ p, least ≤ p.length ∧ cs = p ++ rest ∧ ∀ rest', Meets rest rest' → read (p ++ rest') = .ok (v, rest')

/-- The same for a step that gives no value. -/
def Marks (step : List Char → Except ReadError (List Char)) : Prop :=
  ∀ cs rest, step cs = .ok rest → ∃ p, 1 ≤ p.length ∧ cs = p ++ rest ∧ ∀ rest', step (p ++ rest') = .ok rest'

/-- The same for a reader that repeats itself: it may make any number of steps that is enough for the characters that it takes, at
`factor` for each of them and `more` beside. -/
def TakesIn (factor more : Nat) (read : Nat → Reader α) (fuel : Nat) : Prop :=
  ∀ cs v rest, read fuel cs = .ok (v, rest) →
    ∃ p, 1 ≤ p.length ∧ cs = p ++ rest ∧
      ∀ rest' fuel', Meets rest rest' → factor * p.length + more ≤ fuel' → read fuel' (p ++ rest') = .ok (v, rest')

/-- The length of a text is enough for all the steps. -/
theorem TakesIn.takes {factor more : Nat} {read : Nat → Reader α} (h : ∀ fuel, TakesIn factor more read fuel) (limit : Nat → Nat)
    (hlimit : ∀ n m, factor * n + more ≤ limit (n + m)) : Takes 1 fun cs => read (limit cs.length) cs := by
  intro cs v rest hread
  obtain ⟨p, hp, hcs, hnew⟩ := h _ cs v rest hread
  exact ⟨p, hp, hcs, fun rest' hmeets => hnew rest' _ hmeets (by rw [List.length_append]; exact hlimit _ _)⟩

/-- How much a reader takes at least may be left open. -/
theorem Takes.weak {n : Nat} {f : Reader α} (h : Takes n f) : Takes 0 f := by
  intro cs v rest hread
  obtain ⟨p, -, hcs, hnew⟩ := h cs v rest hread
  exact ⟨p, Nat.zero_le _, hcs, hnew⟩

/-- A reader that always fails takes whatever is asked of it. -/
theorem takes_error (n : Nat) (e : List Char → ReadError) : Takes n fun cs => (.error (e cs) : Except ReadError (α × List Char)) := by
  intro cs v rest h
  cases h

/-- A reader that is done takes nothing. -/
theorem takes_pure (a : α) : Takes 0 fun cs => .ok (a, cs) := by
  intro cs v rest h
  cases h
  exact ⟨[], Nat.le_refl 0, rfl, fun _ _ => rfl⟩

/-- What is made of the value does not change what is taken for it. -/
theorem Takes.map {n : Nat} {f : Reader α} (h : Takes n f) (g : α → β) :
    Takes n fun cs => (f cs).map fun (a, rest) => (g a, rest) := by
  intro cs v rest hread
  dsimp only at hread ⊢
  cases hf : f cs with
  | error e =>
    rw [hf] at hread
    cases hread
  | ok r =>
    rw [hf] at hread
    cases hread
    obtain ⟨p, hp, hcs, hnew⟩ := h cs r.1 r.2 hf
    exact ⟨p, hp, hcs, fun rest' hmeets => by rw [hnew rest' hmeets]; rfl⟩

/-- A reader that decides between two takes what they do, each in its own case. -/
theorem Takes.ite {n : Nat} {f g : Reader α} {P : Prop} [Decidable P] (hf : P → Takes n f) (hg : ¬P → Takes n g) :
    Takes n fun cs => if P then f cs else g cs := by
  by_cases h : P
  · simpa only [if_pos h] using hf h
  · simpa only [if_neg h] using hg h

/-- A reader that goes on behind the first character. -/
theorem Takes.of_cons {n : Nat} {read : Reader α} {f : Char → Reader α} (hnil : ∃ e, read [] = .error e)
    (hcons : ∀ c rest, read (c :: rest) = f c rest) (h : ∀ c, Takes n (f c)) : Takes (n + 1) read := by
  intro cs v rest hread
  cases cs with
  | nil =>
    obtain ⟨e, he⟩ := hnil
    rw [he] at hread
    cases hread
  | cons c cs =>
    rw [hcons] at hread
    obtain ⟨p, hp, rfl, hnew⟩ := h c cs v rest hread
    exact ⟨c :: p, Nat.succ_le_succ hp, rfl, fun rest' hmeets => (hcons c _).trans (hnew rest' hmeets)⟩

/-- What is taken begins with the first character of the text. -/
theorem exists_cons_of_append {p cs rest : List Char} {c : Char} (hp : 1 ≤ p.length) (h : c :: cs = p ++ rest) : ∃ q, p = c :: q := by
  cases p with
  | nil => cases hp
  | cons d q =>
    cases h
    exact ⟨q, rfl⟩

/-- A reader that goes on from a character that is put back. -/
theorem Takes.cons {n : Nat} {f : Reader α} (h : Takes (n + 1) f) (c : Char) : Takes n fun cs => f (c :: cs) := by
  intro cs v rest hread
  obtain ⟨p, hp, hcs, hnew⟩ := h _ v rest hread
  obtain ⟨q, rfl⟩ := exists_cons_of_append (by omega) hcs
  exact ⟨q, Nat.le_of_succ_le_succ hp, (List.cons.inj hcs).2, hnew⟩

/-! ## Blanks -/

/-- The first character behind the blanks is found in front of any text. -/
theorem exists_of_skipBlanks {cs rest : List Char} {c : Char} (h : skipBlanks cs = c :: rest) :
    ∃ ws, cs = ws ++ c :: rest ∧ ∀ more, skipBlanks (ws ++ c :: more) = c :: more := by
  induction cs with
  | nil => cases h
  | cons d ds ih =>
    rw [skipBlanks] at h
    split at h
    · next hd =>
      obtain ⟨ws, rfl, hnew⟩ := ih h
      exact ⟨d :: ws, rfl, fun more => by rw [List.cons_append, skipBlanks, if_pos hd, hnew]⟩
    · next hd =>
      cases h
      exact ⟨[], rfl, fun more => by rw [List.nil_append, skipBlanks, if_neg hd]⟩

/-- A reader that goes on behind the first character that is no blank. -/
theorem Takes.next {n : Nat} {e : ReadError} {f : Char → Reader α} (h : ∀ c, Takes n (f c)) :
    Takes (n + 1) fun cs => match skipBlanks cs with | [] => .error e | c :: rest => f c rest := by
  intro cs v rest hread
  cases hskip : skipBlanks cs with
  | nil => simp [hskip] at hread
  | cons c start =>
    simp only [hskip] at hread
    obtain ⟨ws, rfl, hnew⟩ := exists_of_skipBlanks hskip
    obtain ⟨p, hp, rfl, hread'⟩ := h c start v rest hread
    refine ⟨ws ++ c :: p, by rw [List.length_append, List.length_cons]; omega, by rw [List.append_assoc, List.cons_append], ?_⟩
    intro rest' hmeets
    simp only [List.append_assoc, List.cons_append, hnew, hread' rest' hmeets]

/-- A step over one character. -/
theorem marks_char {e : ReadError} {d : Char} {failed : Char → List Char → ReadError} :
    Marks fun cs => match skipBlanks cs with
      | [] => .error e
      | c :: rest => if c = d then .ok rest else .error (failed c rest) := by
  intro cs rest h
  cases hskip : skipBlanks cs with
  | nil => simp [hskip] at h
  | cons c start =>
    obtain ⟨ws, rfl, hnew⟩ := exists_of_skipBlanks hskip
    simp only [hskip] at h
    split at h
    · next hc =>
      cases h
      refine ⟨ws ++ [c], by rw [List.length_append]; exact Nat.le_add_left 1 _, by rw [List.append_assoc]; rfl, ?_⟩
      intro rest'
      simp only [List.append_assoc, List.singleton_append, hnew, if_pos hc]
    · cases h

/-! ## Words and escapes -/

/-- A word is taken letter by letter. -/
theorem takes_word (word : List Char) : Takes word.length (readWord word) := by
  induction word with
  | nil => exact takes_pure ()
  | cons expected word ih =>
    exact .of_cons (f := fun c rest => if c = expected then readWord word rest else .error .expectedWord) ⟨_, rfl⟩ (fun _ _ => rfl)
      fun c => .ite (fun _ => ih) fun _ => takes_error _ _

/-- A hexadecimal number takes its four digits. -/
theorem takes_hex : Takes 4 readHex := by
  intro cs v rest h
  unfold readHex at h
  dsimp only at h
  split at h
  · next a b c d _ =>
    split at h
    · next ha hb hc hd =>
      cases h
      exact ⟨[a, b, c, d], Nat.le_refl 4, rfl, fun rest' _ => by simp [readHex, ha, hb, hc, hd]⟩
    · cases h
  · cases h

/-- A code point takes four digits, and more when it is written as a pair of surrogates. -/
theorem takes_codePoint : Takes 4 readCodePoint := by
  intro cs v rest h
  unfold readCodePoint at h
  split at h
  · cases h
  · next first middle hfirst =>
    obtain ⟨p, hp, rfl, hnew⟩ := takes_hex cs first middle hfirst
    split at h
    · cases h
    · next htrailing =>
      split at h
      · next hleading =>
        split at h
        · cases h
        · cases h
        · next start =>
          split at h
          · cases h
          · next second middle' hsecond =>
            obtain ⟨q, -, rfl, hnew'⟩ := takes_hex start second middle' hsecond
            split at h
            · next htrailing' =>
              obtain ⟨rfl, rfl⟩ := Prod.mk.inj (Except.ok.inj h)
              refine ⟨p ++ '\\' :: 'u' :: q, by rw [List.length_append]; omega, by simp, fun rest' hmeets => ?_⟩
              have hfirst' := hnew ('\\' :: 'u' :: (q ++ rest')) (.inl rfl)
              simp only [readCodePoint, List.append_assoc, List.cons_append, hfirst', if_neg htrailing, if_pos hleading,
                hnew' rest' hmeets, if_pos htrailing']
            · cases h
        · cases h
      · next hleading =>
        cases h
        exact ⟨p, hp, rfl, fun rest' hmeets => by simp [readCodePoint, hnew rest' hmeets, htrailing, hleading]⟩

/-- An escape is taken from behind its backslash. -/
theorem takes_escape : Takes 1 readEscape := by
  refine .of_cons (f := fun c rest => readEscape (c :: rest)) ⟨_, rfl⟩ (fun _ _ => rfl) fun c => ?_
  simp only [readEscape]
  refine .ite (fun _ => takes_codePoint.weak) fun _ => ?_
  cases plainEscape? c with
  | none => exact takes_error 0 _
  | some value => exact takes_pure value

/-- So is one that is passed over. -/
theorem takes_skipEscape : Takes 1 skipEscape := by
  refine .of_cons (f := fun c rest => skipEscape (c :: rest)) ⟨_, rfl⟩ (fun _ _ => rfl) fun c => ?_
  simp only [skipEscape]
  exact .ite (fun _ => (takes_hex.map fun _ => ()).weak) fun _ => .ite (fun _ => takes_pure ()) fun _ => takes_error 0 _

/-! ## Strings -/

/-- What takes the characters of a string up to its quotation mark takes them with a step for each, whatever is made of them. -/
theorem takesIn_chars {read : Nat → Reader α} {escape : Reader β} (done : α) (escaped : β → α → α) (plain : Char → α → α)
    (hescape : Takes 1 escape) (hnone : ∀ cs, ∃ e, read 0 cs = .error e) (hnil : ∀ fuel, ∃ e, read fuel [] = .error e)
    (hcons : ∀ fuel c cs, read (fuel + 1) (c :: cs) =
      if c = '"' then .ok (done, cs)
      else if c = '\\' then
        match escape cs with
        | .error e => .error e
        | .ok (b, rest) => (read fuel rest).map fun (a, rest) => (escaped b a, rest)
      else if c.toNat < 32 then .error .controlCharacter
      else (read fuel cs).map fun (a, rest) => (plain c a, rest))
    (fuel : Nat) : TakesIn 1 0 read fuel := by
  induction fuel with
  | zero =>
    intro cs v rest h
    obtain ⟨e, he⟩ := hnone cs
    rw [he] at h
    cases h
  | succ fuel ih =>
    intro cs v rest h
    cases cs with
    | nil =>
      obtain ⟨e, he⟩ := hnil (fuel + 1)
      rw [he] at h
      cases h
    | cons c cs =>
      rw [hcons] at h
      split at h
      · next hquote =>
        cases h
        refine ⟨[c], Nat.le_refl 1, rfl, fun rest' fuel' _ hfuel => ?_⟩
        obtain ⟨fuel', rfl⟩ := Nat.exists_eq_succ_of_ne_zero (by simp at hfuel; omega : fuel' ≠ 0)
        rw [List.singleton_append, hcons, if_pos hquote]
      · next hquote =>
        split at h
        · next hbackslash =>
          split at h
          · cases h
          · next b middle hb =>
            obtain ⟨p, -, rfl, hnew⟩ := hescape cs b middle hb
            obtain ⟨⟨a, _⟩, ha, hv⟩ := exists_of_map_eq_ok h
            cases hv
            obtain ⟨q, hq, rfl, hnew'⟩ := ih _ _ _ ha
            refine ⟨c :: (p ++ q), Nat.le_add_left 1 _, by simp, fun rest' fuel' hmeets hfuel => ?_⟩
            simp only [List.length_cons, List.length_append] at hfuel
            obtain ⟨fuel', rfl⟩ := Nat.exists_eq_succ_of_ne_zero (by omega : fuel' ≠ 0)
            simp only [List.cons_append, List.append_assoc, hcons, if_neg hquote, if_pos hbackslash,
              hnew (q ++ rest') (hmeets.append q), hnew' rest' fuel' hmeets (by omega), Except.map]
        · next hbackslash =>
          split at h
          · cases h
          · next hcontrol =>
            obtain ⟨⟨a, _⟩, ha, hv⟩ := exists_of_map_eq_ok h
            cases hv
            obtain ⟨q, hq, rfl, hnew⟩ := ih _ _ _ ha
            refine ⟨c :: q, Nat.le_add_left 1 _, rfl, fun rest' fuel' hmeets hfuel => ?_⟩
            rw [List.length_cons] at hfuel
            obtain ⟨fuel', rfl⟩ := Nat.exists_eq_succ_of_ne_zero (by omega : fuel' ≠ 0)
            simp only [List.cons_append, hcons, if_neg hquote, if_neg hbackslash, if_neg hcontrol,
              hnew rest' fuel' hmeets (by omega), Except.map]

/-- Characters that are read are put together. -/
theorem takesIn_readChars (fuel : Nat) : TakesIn 1 0 readChars fuel := by
  refine takesIn_chars [] List.cons List.cons takes_escape (fun _ => ⟨_, rfl⟩) (fun fuel => by cases fuel <;> exact ⟨_, rfl⟩)
    (fun fuel c cs => ?_) fuel
  simp only [readChars]
  cases readEscape cs <;> rfl

/-- A string is taken with its quotation mark. -/
theorem takes_string : Takes 1 readString :=
  (TakesIn.takes takesIn_readChars (· + 1) fun _ _ => by omega).map String.ofList

/-- Nothing is made of characters that are passed over. -/
theorem takesIn_skipChars (fuel : Nat) : TakesIn 1 0 skipChars fuel := by
  have hmap : ∀ x : Except ReadError (Unit × List Char), (x.map fun r => ((), r.2)) = x := by
    intro x
    cases x <;> rfl
  refine takesIn_chars () (fun _ _ => ()) (fun _ _ => ()) takes_skipEscape (fun _ => ⟨_, rfl⟩)
    (fun fuel => by cases fuel <;> exact ⟨_, rfl⟩) (fun fuel c cs => ?_) fuel
  simp only [skipChars, hmap]
  cases skipEscape cs <;> rfl

/-- A string that is passed over is taken with its quotation mark too. -/
theorem takes_skipString : Takes 1 skipString :=
  TakesIn.takes takesIn_skipChars (· + 1) fun _ _ => by omega

end DataRequests.Json
