import DataRequests.Proofs.JsonReading

/-!
# A text has one value

The tokens of a value can be told from the front of any text that begins with them: the first character says of which form the value is
(`alike_of_spaced`), a string ends at its closing quotation mark, and a number where no further digit stands, which is why what follows a
value in a container is never a digit (`StopsNumber`). So no text is a text of two values (`IsTextOf.unique`).
-/

namespace DataRequests.Json

/-! ## Where a token ends -/

namespace Spaced

variable {ts us : List (List Char)} {cs : List Char} {c d : Char} {t t' : List Char}

/-- Two lists of tokens in one text begin with the same character. -/
theorem same_head (h : Spaced ((c :: t) :: ts) cs) (h' : Spaced ((d :: t') :: us) cs) (hc : isBlank c = false)
    (hd : isBlank d = false) : c = d := by
  obtain ⟨rest, hskip, -⟩ := h.skipBlanks hc
  obtain ⟨rest', hskip', -⟩ := h'.skipBlanks hd
  exact (List.cons.inj (hskip.symm.trans hskip')).1

/-- Behind one token, the tokens that follow it stand in one text. -/
theorem same_tail (h : Spaced ((c :: t) :: ts) cs) (h' : Spaced ((c :: t) :: us) cs) (hc : isBlank c = false) :
    ∃ rest, Spaced ts rest ∧ Spaced us rest := by
  obtain ⟨rest, hskip, hrest⟩ := h.skipBlanks hc
  obtain ⟨rest', hskip', hrest'⟩ := h'.skipBlanks hc
  obtain rfl : rest = rest' := List.append_cancel_left (List.cons.inj (hskip.symm.trans hskip')).2
  exact ⟨rest, hrest, hrest'⟩

/-- A quoted text ends at its closing quotation mark, and so it is told by the text that begins with it. -/
theorem same_quote {s s' : String} (h : Spaced (quote s :: ts) cs) (h' : Spaced (quote s' :: us) cs) :
    s = s' ∧ ∃ rest, Spaced ts rest ∧ Spaced us rest := by
  obtain ⟨rest, hskip, hrest⟩ := h.skipBlanks_quote
  obtain ⟨rest', hskip', hrest'⟩ := h'.skipBlanks_quote
  have hread : readString (s.toList.flatMap escape ++ '"' :: rest) = .ok (s', rest') := by
    rw [(List.cons.inj (hskip.symm.trans hskip')).2]
    exact readString_quoted s' rest'
  rw [readString_quoted] at hread
  obtain ⟨rfl, rfl⟩ := Prod.mk.inj (Except.ok.inj hread)
  exact ⟨rfl, rest, hrest, hrest'⟩

end Spaced

/-- A text that holds these tokens does not begin with a digit. -/
def StopsNumber (us : List (List Char)) : Prop :=
  ∀ rest, Spaced us rest → rest.takeWhile Char.isDigit = []

/-- A blank is no digit. -/
theorem isDigit_of_isBlank {c : Char} (h : isBlank c = true) : c.isDigit = false := by
  simp only [isBlank, Bool.or_eq_true, decide_eq_true_eq] at h
  rcases h with ((rfl | rfl) | rfl) | rfl <;> rfl

theorem stopsNumber_nil : StopsNumber [] := by
  intro rest hrest
  cases hrest with
  | nil hblanks =>
    cases rest with
    | nil => rfl
    | cons c rest => exact List.takeWhile_cons_of_neg (by simp [isDigit_of_isBlank (hblanks c List.mem_cons_self)])

/-- Tokens of which the first does not begin with a digit. -/
theorem stopsNumber_cons {c : Char} (hc : c.isDigit = false) (t : List Char) (us : List (List Char)) :
    StopsNumber ((c :: t) :: us) := by
  intro rest hrest
  cases hrest with
  | @cons ws cs _ hblanks _ _ =>
    cases ws with
    | nil => exact List.takeWhile_cons_of_neg (by simp [hc])
    | cons d ws => exact List.takeWhile_cons_of_neg (by simp [isDigit_of_isBlank (hblanks d List.mem_cons_self)])

/-- What follows an item of an array is a comma or the closing bracket. -/
theorem stopsNumber_itemTokens (values : List Json) (us : List (List Char)) : StopsNumber (itemTokens false values ++ us) := by
  cases values with
  | nil => exact stopsNumber_cons rfl [] us
  | cons v rest =>
    rw [itemTokens_false_cons]
    exact stopsNumber_cons rfl [] _

/-- What follows a member of an object is a comma or the closing brace. -/
theorem stopsNumber_memberTokens (members : List (String × Json)) (us : List (List Char)) :
    StopsNumber (memberTokens false members ++ us) := by
  cases members with
  | nil => exact stopsNumber_cons rfl [] us
  | cons m rest =>
    rw [memberTokens_false_cons]
    exact stopsNumber_cons rfl [] _

/-- The digits of a natural number end where no further digit stands. -/
theorem toDigits_append_inj {n m : Nat} {rest rest' : List Char} (hrest : rest.takeWhile Char.isDigit = [])
    (hrest' : rest'.takeWhile Char.isDigit = []) (h : Nat.toDigits 10 n ++ rest = Nat.toDigits 10 m ++ rest') :
    n = m ∧ rest = rest' := by
  have hdigits (k : Nat) : ∀ c ∈ Nat.toDigits 10 k, c.isDigit = true := fun c hc =>
    Nat.isDigit_of_mem_toDigits (by omega) (by omega) hc
  have hsame : Nat.toDigits 10 n = Nat.toDigits 10 m := by
    have htake := congrArg (List.takeWhile Char.isDigit) h
    rwa [List.takeWhile_append_of_pos (hdigits n), List.takeWhile_append_of_pos (hdigits m), hrest, hrest', List.append_nil,
      List.append_nil] at htake
  refine ⟨?_, List.append_cancel_left (hsame ▸ h)⟩
  rw [← Nat.ofDigitChars_toDigits (b := 10) (n := n) (by omega) (by omega), hsame,
    Nat.ofDigitChars_toDigits (by omega) (by omega)]

/-- The digits of an integer end where no further digit stands. -/
theorem digits_append_inj {n m : Int} {rest rest' : List Char} (hrest : rest.takeWhile Char.isDigit = [])
    (hrest' : rest'.takeWhile Char.isDigit = []) (h : digits n ++ rest = digits m ++ rest') : n = m ∧ rest = rest' := by
  have hminus (k : Nat) (r r' : List Char) : Nat.toDigits 10 k ++ r ≠ '-' :: r' := by
    obtain ⟨c, t, hk⟩ := List.exists_cons_of_ne_nil (Nat.toDigits_ne_nil (n := k) (b := 10))
    have hdigit : c.isDigit = true := Nat.isDigit_of_mem_toDigits (by omega) (by omega) (hk ▸ List.mem_cons_self)
    rw [hk]
    intro heq
    rw [(List.cons.inj heq).1] at hdigit
    exact absurd hdigit (by decide)
  cases n with
  | ofNat n =>
    cases m with
    | ofNat m =>
      obtain ⟨rfl, hsame⟩ := toDigits_append_inj hrest hrest' h
      exact ⟨rfl, hsame⟩
    | negSucc m => exact absurd h (hminus n _ _)
  | negSucc n =>
    cases m with
    | ofNat m => exact absurd h.symm (hminus m _ _)
    | negSucc m =>
      obtain ⟨hnumber, hsame⟩ := toDigits_append_inj hrest hrest' (List.cons.inj h).2
      obtain rfl : n = m := Nat.succ.inj hnumber
      exact ⟨rfl, hsame⟩

/-- A number is told by the text that begins with it, when no digit follows. -/
theorem Spaced.same_digits {n m : Int} {us us' : List (List Char)} {cs : List Char} (hus : StopsNumber us) (hus' : StopsNumber us')
    (h : Spaced (digits n :: us) cs) (h' : Spaced (digits m :: us') cs) : n = m ∧ ∃ rest, Spaced us rest ∧ Spaced us' rest := by
  have hskip (k : Int) {vs : List (List Char)} (hk : Spaced (digits k :: vs) cs) :
      ∃ rest, Json.skipBlanks cs = digits k ++ rest ∧ Spaced vs rest := by
    obtain ⟨c, t, hdigits, hc⟩ := digits_head k
    have hblank : isBlank c = false := by
      rcases hc with hc | rfl
      · exact Bool.eq_false_iff.mpr fun hblank => Bool.false_ne_true ((isDigit_of_isBlank hblank).symm.trans hc)
      · rfl
    rw [hdigits] at hk ⊢
    exact hk.skipBlanks hblank
  obtain ⟨rest, hn, hrest⟩ := hskip n h
  obtain ⟨rest', hm, hrest'⟩ := hskip m h'
  obtain ⟨rfl, rfl⟩ := digits_append_inj (hus rest hrest) (hus' rest' hrest') (hn.symm.trans hm)
  exact ⟨rfl, rest, hrest, hrest'⟩

/-! ## Of which form a value is -/

/-- Two values of one form; only a truth value tells more by its first character. -/
inductive Alike : Json → Json → Prop where
  | null : Alike .null .null
  | boolean (b : Bool) : Alike (.boolean b) (.boolean b)
  | integer (n m : Int) : Alike (.integer n) (.integer m)
  | string (s s' : String) : Alike (.string s) (.string s')
  | array (values values' : List Json) : Alike (.array values) (.array values')
  | object (members members' : List (String × Json)) : Alike (.object members) (.object members')

/-- The character that the form of a value is known by. -/
def mark : Json → Char
  | .null => 'n'
  | .boolean true => 't'
  | .boolean false => 'f'
  | .integer _ => '-'
  | .string _ => '"'
  | .array _ => '['
  | .object _ => '\x7b'

/-- A value begins with the character that its form is known by, or with a digit. -/
theorem mark_of_tokens {v : Json} {c : Char} {t : List Char} {ts : List (List Char)} (h : v.tokens = (c :: t) :: ts) :
    v.mark = if c.isDigit then '-' else c := by
  cases v with
  | integer n =>
    obtain ⟨d, t', hdigits, hd⟩ := digits_head n
    simp only [tokens, scalar, hdigits, List.cons.injEq] at h
    rw [← h.1.1]
    rcases hd with hd | rfl
    · rw [if_pos hd, mark]
    · rfl
  | boolean b =>
    cases b <;>
    · simp only [tokens, scalar, List.cons.injEq] at h
      rw [← h.1.1]
      rfl
  | _ =>
    simp only [tokens, scalar, quote, List.cons.injEq] at h
    rw [← h.1.1]
    rfl

/-- Values of which the forms are known by the same character are of one form. -/
theorem alike_of_mark {v w : Json} (h : v.mark = w.mark) : Alike v w := by
  rcases v with _ | (_ | _) | _ | _ | _ | _ <;> rcases w with _ | (_ | _) | _ | _ | _ | _ <;>
  first
  | constructor
  | simp [mark] at h

/-- Two values at the front of one text are of one form. -/
theorem alike_of_spaced {v w : Json} {us us' : List (List Char)} {cs : List Char} (h : Spaced (v.tokens ++ us) cs)
    (h' : Spaced (w.tokens ++ us') cs) : Alike v w := by
  obtain ⟨c, t, ts, hv, hc, -⟩ := tokens_head v
  obtain ⟨d, t', ts', hw, hd, -⟩ := tokens_head w
  rw [hv] at h
  rw [hw] at h'
  obtain rfl := h.same_head h' hc hd
  exact alike_of_mark ((mark_of_tokens hv).trans (mark_of_tokens hw).symm)

/-- Where an array ends, no further item stands. -/
theorem not_spaced_close {first : Bool} {v : Json} {rest : List Json} {us us' : List (List Char)} {cs : List Char}
    (h : Spaced ([']'] :: us) cs) : ¬Spaced (itemTokens first (v :: rest) ++ us') cs := by
  intro hitem
  cases first with
  | true =>
    obtain ⟨c, t, ts, hv, hc, hclose, -⟩ := tokens_head v
    simp only [itemTokens, if_true, List.nil_append, hv, List.cons_append] at hitem
    exact hclose (hitem.same_head h hc rfl)
  | false =>
    rw [itemTokens_false_cons] at hitem
    exact absurd (hitem.same_head h rfl rfl) (by decide)

/-- Where an object ends, no further member stands. -/
theorem not_spaced_closeBrace {first : Bool} {m : String × Json} {rest : List (String × Json)} {us us' : List (List Char)}
    {cs : List Char} (h : Spaced (['\x7d'] :: us) cs) : ¬Spaced (memberTokens first (m :: rest) ++ us') cs := by
  intro hmember
  cases first with
  | true =>
    simp only [memberTokens, if_true, List.nil_append, quote, List.cons_append] at hmember
    exact absurd (hmember.same_head h rfl rfl) (by decide)
  | false =>
    rw [memberTokens_false_cons] at hmember
    exact absurd (hmember.same_head h rfl rfl) (by decide)

/-! ## The value of a text -/

mutual

/-- The value at the front of a text is told by the text, and so is what follows it. -/
theorem eq_of_spaced : ∀ (v w : Json) {us us' : List (List Char)} {cs : List Char}, StopsNumber us → StopsNumber us' →
    Spaced (v.tokens ++ us) cs → Spaced (w.tokens ++ us') cs → v = w ∧ ∃ rest, Spaced us rest ∧ Spaced us' rest
  | .array values, w, us, us', cs, hus, hus', h, h' => by
    cases alike_of_spaced h h' with
    | array _ values' =>
      simp only [tokens, List.cons_append] at h h'
      obtain ⟨start, hstart, hstart'⟩ := h.same_tail h' rfl
      obtain ⟨rfl, hrest⟩ := items_eq_of_spaced true values values' hstart hstart'
      exact ⟨rfl, hrest⟩
  | .object members, w, us, us', cs, hus, hus', h, h' => by
    cases alike_of_spaced h h' with
    | object _ members' =>
      simp only [tokens, List.cons_append] at h h'
      obtain ⟨start, hstart, hstart'⟩ := h.same_tail h' rfl
      obtain ⟨rfl, hrest⟩ := members_eq_of_spaced true members members' hstart hstart'
      exact ⟨rfl, hrest⟩
  | .null, w, us, us', cs, hus, hus', h, h' => by
    cases alike_of_spaced h h' with
    | null => exact ⟨rfl, Spaced.same_tail (c := 'n') (t := ['u', 'l', 'l']) h h' rfl⟩
  | .boolean b, w, us, us', cs, hus, hus', h, h' => by
    cases alike_of_spaced h h' with
    | boolean =>
      cases b with
      | true => exact ⟨rfl, Spaced.same_tail (c := 't') (t := ['r', 'u', 'e']) h h' rfl⟩
      | false => exact ⟨rfl, Spaced.same_tail (c := 'f') (t := ['a', 'l', 's', 'e']) h h' rfl⟩
  | .integer n, w, us, us', cs, hus, hus', h, h' => by
    cases alike_of_spaced h h' with
    | integer _ m =>
      obtain ⟨rfl, hrest⟩ := Spaced.same_digits hus hus' h h'
      exact ⟨rfl, hrest⟩
  | .string s, w, us, us', cs, hus, hus', h, h' => by
    cases alike_of_spaced h h' with
    | string _ s' =>
      obtain ⟨rfl, hrest⟩ := Spaced.same_quote h h'
      exact ⟨rfl, hrest⟩

/-- The items of an array are told by the text up to the closing bracket. -/
theorem items_eq_of_spaced : ∀ (first : Bool) (values values' : List Json) {us us' : List (List Char)} {cs : List Char},
    Spaced (itemTokens first values ++ us) cs → Spaced (itemTokens first values' ++ us') cs →
      values = values' ∧ ∃ rest, Spaced us rest ∧ Spaced us' rest
  | first, [], values', us, us', cs, h, h' => by
    cases values' with
    | nil => exact ⟨rfl, Spaced.same_tail (c := ']') (t := []) h h' rfl⟩
    | cons v' rest' => exact absurd h' (not_spaced_close h)
  | first, v :: rest, values', us, us', cs, h, h' => by
    cases values' with
    | nil => exact absurd h (not_spaced_close h')
    | cons v' rest' =>
      obtain ⟨start, hstart, hstart'⟩ : ∃ start, Spaced (v.tokens ++ (itemTokens false rest ++ us)) start ∧
          Spaced (v'.tokens ++ (itemTokens false rest' ++ us')) start := by
        simp only [itemTokens, List.append_assoc] at h h'
        cases first with
        | true => exact ⟨cs, h, h'⟩
        | false => exact h.same_tail h' rfl
      obtain ⟨rfl, tail, htail, htail'⟩ :=
        eq_of_spaced v v' (stopsNumber_itemTokens rest us) (stopsNumber_itemTokens rest' us') hstart hstart'
      obtain ⟨rfl, hrest⟩ := items_eq_of_spaced false rest rest' htail htail'
      exact ⟨rfl, hrest⟩

/-- The members of an object are told by the text up to the closing brace. -/
theorem members_eq_of_spaced : ∀ (first : Bool) (members members' : List (String × Json)) {us us' : List (List Char)}
    {cs : List Char}, Spaced (memberTokens first members ++ us) cs → Spaced (memberTokens first members' ++ us') cs →
      members = members' ∧ ∃ rest, Spaced us rest ∧ Spaced us' rest
  | first, [], members', us, us', cs, h, h' => by
    cases members' with
    | nil => exact ⟨rfl, Spaced.same_tail (c := '\x7d') (t := []) h h' rfl⟩
    | cons m' rest' => exact absurd h' (not_spaced_closeBrace h)
  | first, (key, v) :: rest, members', us, us', cs, h, h' => by
    cases members' with
    | nil => exact absurd h (not_spaced_closeBrace h')
    | cons m' rest' =>
      obtain ⟨key', v'⟩ := m'
      obtain ⟨start, hstart, hstart'⟩ :
          ∃ start, Spaced (quote key :: [':'] :: (v.tokens ++ (memberTokens false rest ++ us))) start ∧
            Spaced (quote key' :: [':'] :: (v'.tokens ++ (memberTokens false rest' ++ us'))) start := by
        simp only [memberTokens, List.append_assoc, List.cons_append] at h h'
        cases first with
        | true => exact ⟨cs, h, h'⟩
        | false => exact h.same_tail h' rfl
      obtain ⟨rfl, colon, hcolon, hcolon'⟩ := hstart.same_quote hstart'
      obtain ⟨value, hvalue, hvalue'⟩ := hcolon.same_tail hcolon' rfl
      obtain ⟨rfl, tail, htail, htail'⟩ :=
        eq_of_spaced v v' (stopsNumber_memberTokens rest us) (stopsNumber_memberTokens rest' us') hvalue hvalue'
      obtain ⟨rfl, hrest⟩ := members_eq_of_spaced false rest rest' htail htail'
      exact ⟨rfl, hrest⟩

end

/-- A text is a text of one value only. -/
theorem IsTextOf.unique {text : String} {v w : Json} (h : IsTextOf text v) (h' : IsTextOf text w) : v = w := by
  rw [IsTextOf, ← List.append_nil v.tokens] at h
  rw [IsTextOf, ← List.append_nil w.tokens] at h'
  exact (eq_of_spaced v w stopsNumber_nil stopsNumber_nil h h').1

end DataRequests.Json
