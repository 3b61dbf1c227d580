import DataRequests.Proofs.Lookahead

/-!
# What readers of numbers take, and what is passed over

A number ends where none of its parts goes on, so its reader looks at the character behind it. The readers of a number are put together
from that of its digits (`takes_digits`) and those that look for the point and for the letter of an exponent (`Takes.pointed`,
`Takes.scaled`). A value of any form is passed over like one that is read: the same characters of it are taken whatever follows
(`takes_skipValue`).
-/

namespace DataRequests.Json

variable {α : Type}

/-! ## Numbers -/

/-- A text does not go on with a digit. -/
def NoDigit (cs : List Char) : Prop :=
  ∀ c, cs.head? = some c → c.isDigit = false

/-- Where there is no digit, none is taken. -/
theorem spanDigits_of_noDigit {cs : List Char} (h : NoDigit cs) : spanDigits cs = ([], cs) := by
  cases cs with
  | nil => rfl
  | cons c cs => rw [spanDigits, if_neg (Bool.eq_false_iff.mp (h c rfl))]

/-- The digits at the front of a text are the same in front of any text that does not go on with one. -/
theorem exists_of_spanDigits {cs ds rest : List Char} (h : spanDigits cs = (ds, rest)) :
    cs = ds ++ rest ∧ NoDigit rest ∧ ∀ rest', NoDigit rest' → spanDigits (ds ++ rest') = (ds, rest') := by
  induction cs generalizing ds rest with
  | nil =>
    cases h
    exact ⟨rfl, nofun, fun rest' hrest' => spanDigits_of_noDigit hrest'⟩
  | cons c cs ih =>
    rw [spanDigits] at h
    split at h
    · next hc =>
      obtain ⟨rfl, rfl⟩ := Prod.mk.inj h
      obtain ⟨hcs, hrest, hnew⟩ := ih rfl
      refine ⟨by rw [List.cons_append, ← hcs], hrest, fun rest' hrest' => ?_⟩
      rw [List.cons_append, spanDigits, if_pos hc, hnew rest' hrest']
    · next hc =>
      cases h
      refine ⟨rfl, ?_, fun rest' hrest' => spanDigits_of_noDigit hrest'⟩
      intro d hd
      cases hd
      exact Bool.eq_false_iff.mpr hc

/-- Where digits end, they end in front of a text that goes on alike. -/
theorem NoDigit.of_meets {rest rest' : List Char} (h : NoDigit rest) (hmeets : Meets rest rest') : NoDigit rest' := by
  intro c hc
  rcases hmeets with hsame | hends
  · exact h c (hsame ▸ hc)
  · exact (hends c hc).1

/-- A text that goes on alike does not go on with the point or the letter of an exponent when the first one does not. -/
theorem Meets.ne_cons {cs cs' : List Char} (hmeets : Meets cs cs') {d : Char} (hd : d = '.' ∨ d = 'e' ∨ d = 'E')
    (h : ∀ more, cs = d :: more → False) : ∀ more, cs' = d :: more → False := by
  rintro more rfl
  rcases hmeets with hsame | hends
  · obtain ⟨more, rfl⟩ := List.head?_eq_some_iff.mp hsame.symm
    exact h more rfl
  · obtain ⟨-, hpoint, hlower, hupper⟩ := hends d rfl
    rcases hd with hd | hd | hd
    · exact hpoint hd
    · exact hlower hd
    · exact hupper hd

/-- The first of the digits stands at the front of the text. -/
theorem exists_cons_of_spanDigits {cs ds rest : List Char} {c : Char} (h : spanDigits cs = (c :: ds, rest)) :
    ∃ more, cs = c :: more ∧ c.isDigit = true ∧ spanDigits more = (ds, rest) := by
  cases cs with
  | nil => cases h
  | cons d more =>
    rw [spanDigits] at h
    split at h
    · next hd =>
      cases h
      exact ⟨more, rfl, hd, rfl⟩
    · cases h

/-- A reader that goes on behind digits, of which there is one at least. -/
theorem takes_digits {read : Reader α} {f : Char → List Char → Reader α} (hnone : ∀ cs, NoDigit cs → ∃ e, read cs = .error e)
    (hread : ∀ cs c ds rest, spanDigits cs = (c :: ds, rest) → read cs = f c ds rest) (h : ∀ c ds, Takes 0 (f c ds)) :
    Takes 1 read := by
  intro cs v rest hcs
  rcases hspan : spanDigits cs with ⟨ds, middle⟩
  obtain ⟨rfl, hmiddle, hnew⟩ := exists_of_spanDigits hspan
  cases ds with
  | nil =>
    obtain ⟨e, he⟩ := hnone _ hmiddle
    rw [List.nil_append, he] at hcs
    cases hcs
  | cons c ds =>
    rw [hread _ c ds middle hspan] at hcs
    obtain ⟨p, -, rfl, hnew'⟩ := h c ds middle v rest hcs
    refine ⟨c :: ds ++ p, Nat.le_add_left 1 _, (List.append_assoc ..).symm, fun rest' hmeets => ?_⟩
    have hspan' := hnew (p ++ rest') (hmiddle.of_meets (hmeets.append p))
    rw [List.append_assoc, hread _ c ds _ hspan']
    exact hnew' rest' hmeets

/-- Goes on at the letter of an exponent; where there is none, the value is there. -/
def readScaled (letter : Reader α) (whole : Except ReadError α) : Reader α := fun cs =>
  match cs with
  | 'e' :: rest | 'E' :: rest => letter rest
  | _ => whole.map (·, cs)

/-- Goes on at the point of a number, or reads something else where there is none. -/
def readPointed (point other : Reader α) : Reader α := fun cs =>
  match cs with
  | '.' :: rest => point rest
  | _ => other cs

/-- Where no letter of an exponent stands, the value is there. -/
theorem readScaled_of_ne {letter : Reader α} {whole : Except ReadError α} {cs : List Char}
    (hlower : ∀ more, cs = 'e' :: more → False) (hupper : ∀ more, cs = 'E' :: more → False) :
    readScaled letter whole cs = whole.map (·, cs) := by
  unfold readScaled
  split
  · exact (hlower _ rfl).elim
  · exact (hupper _ rfl).elim
  · rfl

/-- Where no point stands, something else is read. -/
theorem readPointed_of_ne {point other : Reader α} {cs : List Char} (h : ∀ more, cs = '.' :: more → False) :
    readPointed point other cs = other cs := by
  unfold readPointed
  split
  · exact (h _ rfl).elim
  · rfl

/-- Going on at the letter of an exponent takes what is taken behind the letter, or nothing. -/
theorem Takes.scaled {letter : Reader α} (h : Takes 0 letter) (whole : Except ReadError α) : Takes 0 (readScaled letter whole) := by
  intro cs v rest hread
  unfold readScaled at hread
  split at hread
  · next cs =>
    obtain ⟨p, -, rfl, hnew⟩ := h cs v rest hread
    exact ⟨'e' :: p, Nat.zero_le _, rfl, hnew⟩
  · next cs =>
    obtain ⟨p, -, rfl, hnew⟩ := h cs v rest hread
    exact ⟨'E' :: p, Nat.zero_le _, rfl, hnew⟩
  · next hlower hupper =>
    obtain ⟨a, rfl, hv⟩ := exists_of_map_eq_ok hread
    cases hv
    refine ⟨[], Nat.zero_le _, rfl, fun rest' hmeets => ?_⟩
    exact readScaled_of_ne (hmeets.ne_cons (.inr (.inl rfl)) hlower) (hmeets.ne_cons (.inr (.inr rfl)) hupper)

/-- Going on at the point takes what is taken behind it, or in place of it. -/
theorem Takes.pointed {point other : Reader α} (h : Takes 0 point) (hother : Takes 0 other) : Takes 0 (readPointed point other) := by
  intro cs v rest hread
  unfold readPointed at hread
  split at hread
  · next cs =>
    obtain ⟨p, -, rfl, hnew⟩ := h cs v rest hread
    exact ⟨'.' :: p, Nat.zero_le _, rfl, hnew⟩
  · next hpoint =>
    obtain ⟨p, -, rfl, hnew⟩ := hother cs v rest hread
    refine ⟨p, Nat.zero_le _, rfl, fun rest' hmeets => ?_⟩
    rw [readPointed_of_ne ((hmeets.append p).ne_cons (.inl rfl) hpoint), hnew rest' hmeets]

/-- The power of an exponent, whose sign, if it has one, has been read. -/
def readPower (negative : Bool) (d : Digits) (down : Bool) : Reader Number := fun cs =>
  match cs with
  | [] => .error .endInValue
  | c :: _ =>
    if c.isDigit then
      let (digits, rest) := spanDigits cs
      let power : Int := digits.foldl (fun n c => n * 10 + digitValue c) 0
      (Digits.toNumber negative { d with exponent := d.exponent + (if down then -power else power) }).map (·, rest)
    else .error .invalidNumber

/-- A value that is there already takes nothing. -/
theorem takes_given (value : Except ReadError α) : Takes 0 fun cs => value.map (·, cs) := by
  cases value with
  | error e => exact takes_error 0 fun _ => e
  | ok a => exact takes_pure a

/-- The power of an exponent takes its digits. -/
theorem takes_power (negative : Bool) (d : Digits) (down : Bool) : Takes 1 (readPower negative d down) := by
  refine takes_digits (f := fun c ds rest =>
    let power : Int := (c :: ds).foldl (fun n c => n * 10 + digitValue c) 0
    (Digits.toNumber negative { d with exponent := d.exponent + (if down then -power else power) }).map (·, rest)) ?_ ?_
    fun c ds => takes_given _
  · intro cs hcs
    cases cs with
    | nil => exact ⟨_, rfl⟩
    | cons c cs => exact ⟨.invalidNumber, by simp [readPower, hcs c rfl]⟩
  · intro cs c ds rest h
    obtain ⟨more, rfl, hc, -⟩ := exists_cons_of_spanDigits h
    simp only [readPower, hc, h, if_true]

/-- An exponent takes its sign, where there is one, and its power. -/
theorem takes_exponent (negative : Bool) (d : Digits) : Takes 1 (readExponent negative d) := by
  refine .of_cons (f := fun c rest =>
    if c = '+' then readPower negative d false rest
    else if c = '-' then readPower negative d true rest
    else readPower negative d false (c :: rest)) ⟨_, rfl⟩ ?_ fun c =>
      .ite (fun _ => (takes_power _ _ _).weak) fun _ => .ite (fun _ => (takes_power _ _ _).weak) fun _ => (takes_power _ _ _).cons c
  intro c rest
  by_cases hplus : c = '+'
  · subst hplus
    rfl
  · by_cases hminus : c = '-'
    · subst hminus
      rfl
    · simp [readExponent, readPower, hplus, hminus]

/-- The places of a number are taken with the exponent behind them. -/
theorem takes_places (negative : Bool) (d : Digits) : Takes 1 (readPlaces negative d) := by
  refine takes_digits (f := fun c ds rest =>
    let d := (c :: ds).foldl Digits.pushPlace { d with full := false }
    readScaled (readExponent negative d) (d.toNumber negative) rest) ?_ ?_
    fun c ds => (takes_exponent negative _).weak.scaled _
  · intro cs hcs
    cases cs with
    | nil => exact ⟨_, rfl⟩
    | cons c cs => exact ⟨.invalidNumber, by simp only [readPlaces, spanDigits_of_noDigit hcs]⟩
  · intro cs c ds rest h
    simp only [readPlaces, h]
    rfl

/-- The value of a number that ends behind its digits. -/
def Digits.whole (negative : Bool) (d : Digits) : Except ReadError Number :=
  if d.full then d.toNumber negative
  else if negative then
    if d.significand = 0 ∨ d.significand > 0x8000000000000000 then d.toNumber negative
    else .ok (.integer (-d.significand))
  else .ok (.integer d.significand)

/-- A number is taken with its places and its exponent. -/
theorem takes_number (negative : Bool) : Takes 1 (readNumber negative) := by
  refine takes_digits (f := fun c more rest =>
    if c = '0' ∧ more ≠ [] then .error .invalidNumber
    else
      let d := more.foldl Digits.pushWhole ⟨digitValue c, 0, false⟩
      readPointed (readPlaces negative d) (readScaled (readExponent negative d) (d.whole negative)) rest) ?_ ?_
    fun c ds => .ite (fun _ => takes_error 0 _) fun _ =>
      (takes_places negative _).weak.pointed ((takes_exponent negative _).weak.scaled _)
  · intro cs hcs
    cases cs with
    | nil => exact ⟨_, rfl⟩
    | cons c cs => exact ⟨.invalidNumber, by simp [readNumber, hcs c rfl]⟩
  · intro cs c ds rest h
    obtain ⟨more, rfl, hc, hmore⟩ := exists_cons_of_spanDigits h
    simp only [readNumber, hc, hmore, not_true, if_false]
    split
    · rfl
    · split
      · rfl
      · rfl
      · rfl
      · next hpoint hlower hupper =>
        rw [readPointed_of_ne hpoint, readScaled_of_ne hlower hupper, Digits.whole]
        repeat' split
        all_goals rfl

/-! ## Numbers that are passed over -/

/-- Passes over the power of an exponent, whose sign, if it has one, has been read. -/
def skipPower : Reader Unit := fun cs =>
  match spanDigits cs with
  | ([], _) => .error .invalidNumber
  | (_, rest) => .ok ((), rest)

/-- A power that is passed over takes its digits. -/
theorem takes_skipPower : Takes 1 skipPower := by
  refine takes_digits (f := fun c ds rest => .ok ((), rest)) (fun cs hcs => ?_) (fun cs c ds rest h => ?_) fun _ _ => takes_pure ()
  · exact ⟨.invalidNumber, by simp only [skipPower, spanDigits_of_noDigit hcs]⟩
  · simp only [skipPower, h]

/-- An exponent that is passed over is taken like one that is read. -/
theorem takes_skipExponent : Takes 1 skipExponent := by
  refine .of_cons (f := fun c rest =>
    if c = '+' then skipPower rest else if c = '-' then skipPower rest else skipPower (c :: rest)) ⟨_, rfl⟩ ?_ fun c =>
      .ite (fun _ => takes_skipPower.weak) fun _ => .ite (fun _ => takes_skipPower.weak) fun _ => takes_skipPower.cons c
  intro c rest
  by_cases hplus : c = '+'
  · subst hplus
    rfl
  · by_cases hminus : c = '-'
    · subst hminus
      rfl
    · rw [if_neg hplus, if_neg hminus, skipExponent]
      · rfl
      · exact fun _ h => hplus (List.cons.inj h).1
      · exact fun _ h => hminus (List.cons.inj h).1

/-- Passes over the places of a number, whose point has been read, and what follows them. -/
def skipPlaces : Reader Unit := fun cs =>
  match spanDigits cs with
  | ([], _) => .error .invalidNumber
  | (_, 'e' :: rest) | (_, 'E' :: rest) => skipExponent rest
  | (_, rest) => .ok ((), rest)

/-- So are the places of a number. -/
theorem takes_skipPlaces : Takes 1 skipPlaces := by
  refine takes_digits (f := fun c ds => readScaled skipExponent (.ok ())) (fun cs hcs => ?_) (fun cs c ds rest h => ?_)
    fun _ _ => takes_skipExponent.weak.scaled _
  · exact ⟨.invalidNumber, by simp only [skipPlaces, spanDigits_of_noDigit hcs]⟩
  · simp only [skipPlaces, h]
    split
    · next heq => cases heq
    · next heq => cases heq; rfl
    · next heq => cases heq; rfl
    · next hlower hupper heq =>
      cases heq
      rw [readScaled_of_ne hlower hupper]
      rfl

/-- So is a number. -/
theorem takes_skipNumber : Takes 1 skipNumber := by
  refine takes_digits (f := fun c more rest =>
    if c = '0' ∧ more ≠ [] then .error .invalidNumber else readPointed skipPlaces (readScaled skipExponent (.ok ())) rest)
    (fun cs hcs => ?_) (fun cs c ds rest h => ?_)
    fun _ _ => .ite (fun _ => takes_error 0 _) fun _ => takes_skipPlaces.weak.pointed (takes_skipExponent.weak.scaled _)
  · exact ⟨.invalidNumber, by simp only [skipNumber, spanDigits_of_noDigit hcs]⟩
  · simp only [skipNumber, h]
    split
    · rfl
    · split
      · rfl
      · rfl
      · rfl
      · next hpoint hlower hupper =>
        rw [readPointed_of_ne hpoint, readScaled_of_ne hlower hupper]
        rfl

/-! ## Values that are passed over -/

/-- A key that is passed over is taken with its colon. -/
theorem takes_skipKey : Takes 1 skipKey := by
  unfold skipKey
  refine Takes.next fun c => .ite (fun _ => ?_) fun _ => takes_error 0 _
  intro cs v rest h
  dsimp only at h
  split at h
  · cases h
  · next middle hmiddle =>
    obtain ⟨p, -, rfl, hnew⟩ := takes_skipString cs () middle hmiddle
    split at h
    · cases h
    · next c start hskip =>
      obtain ⟨ws, rfl, hblanks⟩ := exists_of_skipBlanks hskip
      split at h
      · next hcolon =>
        cases h
        refine ⟨p ++ (ws ++ [c]), Nat.zero_le _, by simp, fun rest' hmeets => ?_⟩
        have hstring := hnew (ws ++ c :: rest') (.middle ws c _ _)
        simp only [List.append_assoc, List.singleton_append, hstring, hblanks, if_pos hcolon]
      · cases h

/-- What a value begins with that is no container: the rest of it is passed over. -/
def skipScalar (c : Char) : Reader Unit := fun rest =>
  if c = 'n' then readWord ['u', 'l', 'l'] rest
  else if c = 't' then readWord ['r', 'u', 'e'] rest
  else if c = 'f' then readWord ['a', 'l', 's', 'e'] rest
  else if c = '-' then skipNumber rest
  else if c.isDigit then skipNumber (c :: rest)
  else if c = '"' then skipString rest
  else .error .expectedValue

/-- What is no container is taken as a word, a number or a string. -/
theorem takes_skipScalar (c : Char) : Takes 0 (skipScalar c) :=
  .ite (fun _ => (takes_word _).weak) fun _ => .ite (fun _ => (takes_word _).weak) fun _ =>
    .ite (fun _ => (takes_word _).weak) fun _ => .ite (fun _ => takes_skipNumber.weak) fun _ =>
    .ite (fun _ => takes_skipNumber.cons c) fun _ => .ite (fun _ => takes_skipString.weak) fun _ => takes_error 0 _

/-- A value that does not begin with a bracket or a brace is passed over as no container. -/
theorem skipNested_scalar {cs rest : List Char} {c : Char} (h : skipBlanks cs = c :: rest) (hlist : c ≠ '[') (hobject : c ≠ '\x7b')
    (fuel : Nat) : skipNested (fuel + 1) cs = skipScalar c rest := by
  simp only [skipNested, h, if_neg hlist, if_neg hobject, skipScalar]

/-- A list is passed over by its items, where it has any. -/
theorem skipNested_list {cs rest more : List Char} {c : Char} (h : skipBlanks cs = '[' :: rest) (hrest : skipBlanks rest = c :: more)
    (fuel : Nat) : skipNested (fuel + 1) cs = if c = ']' then .ok ((), more) else skipItems fuel (c :: more) := by
  simp [skipNested, h, hrest]

/-- An object is passed over by its members, where it has any. -/
theorem skipNested_object {cs rest more : List Char} {c : Char} (h : skipBlanks cs = '\x7b' :: rest)
    (hrest : skipBlanks rest = c :: more) (fuel : Nat) :
    skipNested (fuel + 1) cs = if c = '\x7d' then .ok ((), more) else skipMembers fuel (c :: more) := by
  simp [skipNested, h, hrest]

/-- A container takes one step more than what is in it, for the character that opens it. -/
theorem exists_of_container {opening closing : Char} {inner : Nat → Reader Unit} {fuel : Nat}
    (hinner : TakesIn 2 1 inner fuel)
    (hskip : ∀ {cs rest more : List Char} {c : Char}, skipBlanks cs = opening :: rest → skipBlanks rest = c :: more →
      ∀ fuel, skipNested (fuel + 1) cs = if c = closing then .ok ((), more) else inner fuel (c :: more))
    {cs start more rest : List Char} {c : Char} (hcs : skipBlanks cs = opening :: start) (hstart : skipBlanks start = c :: more)
    (h : skipNested (fuel + 1) cs = .ok ((), rest)) :
    ∃ p, 1 ≤ p.length ∧ cs = p ++ rest ∧
      ∀ rest' fuel', Meets rest rest' → 2 * p.length + 0 ≤ fuel' → skipNested fuel' (p ++ rest') = .ok ((), rest') := by
  rw [hskip hcs hstart] at h
  obtain ⟨ws, rfl, hblanks⟩ := exists_of_skipBlanks hcs
  obtain ⟨ws', rfl, hblanks'⟩ := exists_of_skipBlanks hstart
  split at h
  · next hclosing =>
    cases h
    refine ⟨ws ++ opening :: (ws' ++ [c]), by simp; omega, by simp, fun rest' fuel' _ hfuel => ?_⟩
    simp only [List.length_append, List.length_cons] at hfuel
    obtain ⟨fuel', rfl⟩ := Nat.exists_eq_succ_of_ne_zero (by omega : fuel' ≠ 0)
    simp only [List.append_assoc, List.cons_append, List.nil_append, hskip (hblanks _) (hblanks' _), if_pos hclosing]
  · next hclosing =>
    obtain ⟨q, hq, hmore, hnew⟩ := hinner _ _ _ h
    obtain ⟨q, rfl⟩ := exists_cons_of_append hq hmore
    obtain rfl : more = q ++ rest := (List.cons.inj hmore).2
    refine ⟨ws ++ opening :: (ws' ++ c :: q), by simp; omega, by simp, fun rest' fuel' hmeets hfuel => ?_⟩
    simp only [List.length_append, List.length_cons] at hfuel
    obtain ⟨fuel', rfl⟩ := Nat.exists_eq_succ_of_ne_zero (by omega : fuel' ≠ 0)
    simp only [List.append_assoc, List.cons_append, hskip (hblanks _) (hblanks' _), if_neg hclosing]
    exact hnew rest' fuel' hmeets (by simp only [List.length_cons]; omega)

/-- One value of a container, and those behind a comma. -/
theorem TakesIn.commas {closing : Char} {ended failed : ReadError} {item inner : Nat → Reader Unit} {fuel : Nat}
    (hitem : TakesIn 2 0 item fuel) (hinner : TakesIn 2 1 inner fuel)
    (hskip : ∀ fuel cs, inner (fuel + 1) cs =
      match item fuel cs with
      | .error e => .error e
      | .ok (_, rest) =>
        match skipBlanks rest with
        | [] => .error ended
        | c :: rest => if c = ',' then inner fuel rest else if c = closing then .ok ((), rest) else .error failed) :
    TakesIn 2 1 inner (fuel + 1) := by
  intro cs v rest h
  rw [hskip] at h
  split at h
  · cases h
  · next middle hmiddle =>
    obtain ⟨p, hp, rfl, hnew⟩ := hitem _ _ _ hmiddle
    split at h
    · cases h
    · next c start hstart =>
      obtain ⟨ws, rfl, hblanks⟩ := exists_of_skipBlanks hstart
      split at h
      · next hcomma =>
        obtain ⟨q, hq, rfl, hnew'⟩ := hinner _ _ _ h
        refine ⟨p ++ (ws ++ c :: q), by simp; omega, by simp, fun rest' fuel' hmeets hfuel => ?_⟩
        simp only [List.length_append, List.length_cons] at hfuel
        obtain ⟨fuel', rfl⟩ := Nat.exists_eq_succ_of_ne_zero (by omega : fuel' ≠ 0)
        have hvalue := hnew (ws ++ c :: (q ++ rest')) fuel' (.middle ws c _ _) (by omega)
        simp only [List.append_assoc, List.cons_append, hskip, hvalue, hblanks, if_pos hcomma]
        exact hnew' rest' fuel' hmeets (by omega)
      · next hcomma =>
        split at h
        · next hclosing =>
          cases h
          refine ⟨p ++ (ws ++ [c]), by simp; omega, by simp, fun rest' fuel' hmeets hfuel => ?_⟩
          simp only [List.length_append, List.length_cons] at hfuel
          obtain ⟨fuel', rfl⟩ := Nat.exists_eq_succ_of_ne_zero (by omega : fuel' ≠ 0)
          have hvalue := hnew (ws ++ c :: rest') fuel' (.middle ws c _ _) (by omega)
          simp only [List.append_assoc, List.singleton_append, hskip, hvalue, hblanks, if_neg hcomma, if_pos hclosing]
        · cases h

/-- Passes over a member of an object. -/
def skipMember (fuel : Nat) : Reader Unit := fun cs =>
  match skipKey cs with
  | .error e => .error e
  | .ok (_, rest) => skipNested fuel rest

/-- A member takes its key and then what its value takes. -/
theorem TakesIn.member {fuel : Nat} (h : TakesIn 2 0 skipNested fuel) : TakesIn 2 0 skipMember fuel := by
  intro cs v rest hread
  unfold skipMember at hread
  split at hread
  · cases hread
  · next middle hmiddle =>
    obtain ⟨p, hp, rfl, hnew⟩ := takes_skipKey _ _ _ hmiddle
    obtain ⟨q, hq, rfl, hnew'⟩ := h _ _ _ hread
    refine ⟨p ++ q, by simp; omega, by simp, fun rest' fuel' hmeets hfuel => ?_⟩
    rw [List.length_append] at hfuel
    simp only [List.append_assoc, skipMember, hnew (q ++ rest') (hmeets.append q), hnew' rest' fuel' hmeets (by omega)]

/-- Members are passed over one by one, up to the closing brace. -/
theorem skipMembers_succ (fuel : Nat) (cs : List Char) : skipMembers (fuel + 1) cs =
    match skipMember fuel cs with
    | .error e => .error e
    | .ok (_, rest) =>
      match skipBlanks rest with
      | [] => .error .endInObject
      | c :: rest =>
        if c = ',' then skipMembers fuel rest else if c = '\x7d' then .ok ((), rest) else .error .expectedObjectCommaOrEnd := by
  rw [skipMembers, skipMember]
  cases skipKey cs <;> rfl

/-- Every second step at least takes a character. -/
theorem takesIn_skip (fuel : Nat) :
    TakesIn 2 0 skipNested fuel ∧ TakesIn 2 1 skipItems fuel ∧ TakesIn 2 1 skipMembers fuel := by
  -- The three call each other with one step less, so one induction on the steps carries them all.
  induction fuel with
  | zero => refine ⟨?_, ?_, ?_⟩ <;> exact fun cs v rest h => by cases h
  | succ fuel ih =>
    obtain ⟨hnested, hitems, hmembers⟩ := ih
    refine ⟨?_, hnested.commas hitems fun _ _ => rfl,
      hnested.member.commas hmembers skipMembers_succ⟩
    intro cs v rest h
    cases hskip : skipBlanks cs with
    | nil => simp [skipNested, hskip] at h
    | cons c start =>
      by_cases hlist : c = '['
      · subst hlist
        cases hstart : skipBlanks start with
        | nil => simp [skipNested, hskip, hstart] at h
        | cons d more => exact exists_of_container hitems skipNested_list hskip hstart h
      · by_cases hobject : c = '\x7b'
        · subst hobject
          cases hstart : skipBlanks start with
          | nil => simp [skipNested, hskip, hstart] at h
          | cons d more => exact exists_of_container hmembers skipNested_object hskip hstart h
        · rw [skipNested_scalar hskip hlist hobject] at h
          obtain ⟨ws, rfl, hblanks⟩ := exists_of_skipBlanks hskip
          obtain ⟨p, -, rfl, hnew⟩ := takes_skipScalar c start v rest h
          refine ⟨ws ++ c :: p, by simp; omega, by simp, fun rest' fuel' hmeets hfuel => ?_⟩
          simp only [List.length_append, List.length_cons] at hfuel
          obtain ⟨fuel', rfl⟩ := Nat.exists_eq_succ_of_ne_zero (by omega : fuel' ≠ 0)
          simp only [List.append_assoc, List.cons_append, skipNested_scalar (hblanks _) hlist hobject, hnew rest' hmeets]

/-- A value that is passed over is taken from the front of the text, whatever its form is. -/
theorem takes_skipValue : Takes 1 skipValue :=
  TakesIn.takes (fun fuel => (takesIn_skip fuel).1) (2 * · + 2) fun _ _ => by omega

end DataRequests.Json
