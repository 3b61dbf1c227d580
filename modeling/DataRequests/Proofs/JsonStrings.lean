import DataRequests.Proofs.JsonText
import Mathlib.Tactic.SplitIfs

/-!
# Strings are read back

Every character that is written between quotation marks is read as itself, whether it is escaped or stands for itself
(`readChars_escape`), and so a quoted text is read as the string that it quotes (`readString_quoted`).
-/

namespace DataRequests.Json

/-- A hexadecimal digit is read as its number. -/
theorem hexValue?_hexDigit : ∀ n < 16, hexValue? (hexDigit n) = some n := by
  decide

/-- A control character is read from its four digits. -/
theorem readCodePoint_control {c : Char} (hc : c.toNat < 32) (rest : List Char) :
    readCodePoint ('0' :: '0' :: hexDigit (c.toNat / 16) :: hexDigit (c.toNat % 16) :: rest) = .ok (c, rest) := by
  have hzero : hexValue? '0' = some 0 := rfl
  have hhigh := hexValue?_hexDigit (c.toNat / 16) (by omega)
  have hlow := hexValue?_hexDigit (c.toNat % 16) (by omega)
  have hvalue : ((0 * 16 + 0) * 16 + c.toNat / 16) * 16 + c.toNat % 16 = c.toNat := by omega
  have hread : readHex ('0' :: '0' :: hexDigit (c.toNat / 16) :: hexDigit (c.toNat % 16) :: rest) = .ok (c.toNat, rest) := by
    simp only [readHex, hzero, hhigh, hlow, hvalue]
  have htrailing : isTrailing c.toNat = false := by
    simp only [isTrailing, Bool.and_eq_false_iff, decide_eq_false_iff_not]
    omega
  have hleading : isLeading c.toNat = false := by
    simp only [isLeading, Bool.and_eq_false_iff, decide_eq_false_iff_not]
    omega
  simp [readCodePoint, hread, htrailing, hleading, Char.ofNat_toNat]

/-- A character is read back from between quotation marks. -/
theorem readChars_escape (fuel : Nat) (c : Char) (rest : List Char) :
    readChars (fuel + 1) (escape c ++ rest) = (readChars fuel rest).map fun (cs, rest) => (c :: cs, rest) := by
  unfold escape
  split_ifs with h1 h2 h3 h4 h5 h6 h7 h8
  case pos => subst h1; rfl
  case pos => subst h2; rfl
  case pos => subst h3; rfl
  case pos => subst h4; rfl
  case pos => subst h5; rfl
  case pos => subst h6; rfl
  case pos => subst h7; rfl
  case pos =>
    have hread : readEscape ('u' :: '0' :: '0' :: hexDigit (c.toNat / 16) :: hexDigit (c.toNat % 16) :: rest) = .ok (c, rest) :=
      readCodePoint_control h8 rest
    simp [readChars, hread]
  case neg => simp [readChars, h1, h2, h8]

/-- The escaped form of a text is not shorter than the text. -/
theorem length_le_flatMap_escape (cs : List Char) : cs.length ≤ (cs.flatMap escape).length := by
  induction cs with
  | nil => exact Nat.le_refl 0
  | cons c cs ih =>
    have hone : 0 < (escape c).length := by
      unfold escape
      split_ifs <;> exact Nat.succ_pos _
    simp only [List.flatMap_cons, List.length_append, List.length_cons]
    omega

/-- The characters of a text are read back up to the closing quotation mark. -/
theorem readChars_quoted {cs : List Char} {fuel : Nat} (h : cs.length < fuel) (rest : List Char) :
    readChars fuel (cs.flatMap escape ++ '"' :: rest) = .ok (cs, rest) := by
  induction cs generalizing fuel with
  | nil =>
    obtain ⟨fuel, rfl⟩ := Nat.exists_eq_add_of_lt h
    rfl
  | cons c cs ih =>
    obtain ⟨n, rfl⟩ : ∃ n, fuel = n + 1 := ⟨fuel - 1, by omega⟩
    have hrest : readChars n (cs.flatMap escape ++ '"' :: rest) = .ok (cs, rest) := ih (by simpa using h)
    rw [List.flatMap_cons, List.append_assoc, readChars_escape, hrest]
    rfl

/-- A string is read back behind its opening quotation mark. -/
theorem readString_quoted (s : String) (rest : List Char) :
    readString (s.toList.flatMap escape ++ '"' :: rest) = .ok (s, rest) := by
  have hlength := length_le_flatMap_escape s.toList
  have hread : readChars ((s.toList.flatMap escape ++ '"' :: rest).length + 1) (s.toList.flatMap escape ++ '"' :: rest) =
      .ok (s.toList, rest) := by
    apply readChars_quoted
    simp only [List.length_append]
    omega
  rw [readString, hread]
  simp [Except.map]

/-- A quoted text at the front of a text stands behind the blanks there. -/
theorem Spaced.skipBlanks_quote {s : String} {ts : List (List Char)} {cs : List Char} (h : Spaced (quote s :: ts) cs) :
    ∃ rest, Json.skipBlanks cs = '"' :: (s.toList.flatMap escape ++ '"' :: rest) ∧ Spaced ts rest := by
  obtain ⟨rest, hskip, hrest⟩ := h.skipBlanks rfl
  exact ⟨rest, by simpa using hskip, hrest⟩

end DataRequests.Json
