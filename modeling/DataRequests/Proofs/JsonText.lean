import DataRequests.Json.Token
import DataRequests.Json.Writer

/-!
# The texts of a JSON value

A value is written as a list of tokens, and a text of the value is these tokens with any blanks between them (`Spaced`). The compact
and the indented form are two such texts (`compact_isTextOf`, `indented_isTextOf`), so what is said of all texts of a value holds of
both.
-/

namespace DataRequests.Json

/-! ## Tokens -/

mutual

/-- The tokens of a value. -/
def tokens : Json → List (List Char)
  | .array values => ['['] :: itemTokens true values
  | .object pairs => ['\x7b'] :: memberTokens true pairs
  | .null => [scalar .null]
  | .boolean b => [scalar (.boolean b)]
  | .integer n => [scalar (.integer n)]
  | .string s => [scalar (.string s)]

/-- The tokens of the items of an array and of its closing bracket; each item but the first has a comma in front. -/
def itemTokens (first : Bool) : List Json → List (List Char)
  | [] => [[']']]
  | value :: rest => (if first then [] else [[',']]) ++ (value.tokens ++ itemTokens false rest)

/-- The tokens of the members of an object and of its closing brace. -/
def memberTokens (first : Bool) : List (String × Json) → List (List Char)
  | [] => [['\x7d']]
  | (key, value) :: rest =>
    (if first then [] else [[',']]) ++ (quote key :: [':'] :: (value.tokens ++ memberTokens false rest))

end

theorem itemTokens_false_cons (value : Json) (rest : List Json) :
    itemTokens false (value :: rest) = [','] :: itemTokens true (value :: rest) := by
  simp [itemTokens]

theorem memberTokens_false_cons (member : String × Json) (rest : List (String × Json)) :
    memberTokens false (member :: rest) = [','] :: memberTokens true (member :: rest) := by
  simp [memberTokens]

/-! ## Blanks between tokens -/

/-- A text holds nothing but blanks. -/
def Blanks (cs : List Char) : Prop :=
  ∀ c ∈ cs, isBlank c = true

/-- A text holds some tokens one after the other, with nothing but blanks between them, before the first and after the last. -/
inductive Spaced : List (List Char) → List Char → Prop where
  | nil {ws : List Char} (h : Blanks ws) : Spaced [] ws
  | cons {ws cs : List Char} {ts : List (List Char)} (h : Blanks ws) (t : List Char) (hrest : Spaced ts cs) :
      Spaced (t :: ts) (ws ++ (t ++ cs))

/-- Nothing is blank. -/
theorem blanks_nil : Blanks [] := by
  intro c hc
  cases hc

/-- Blanks behind blanks are blanks. -/
theorem Blanks.append {ws ws' : List Char} (h : Blanks ws) (h' : Blanks ws') : Blanks (ws ++ ws') := by
  intro c hc
  rcases List.mem_append.mp hc with hc | hc
  · exact h c hc
  · exact h' c hc

/-- Blanks are skipped. -/
theorem Blanks.skipBlanks {ws : List Char} (h : Blanks ws) (cs : List Char) : skipBlanks (ws ++ cs) = skipBlanks cs := by
  induction ws with
  | nil => rfl
  | cons c ws ih =>
    rw [List.cons_append, Json.skipBlanks, if_pos (h c List.mem_cons_self)]
    exact ih fun d hd => h d (List.mem_cons_of_mem c hd)

namespace Spaced

variable {ts us : List (List Char)} {cs ds ws : List Char}

/-- Blanks may come before the first token. -/
theorem blanks_append (h : Blanks ws) (hcs : Spaced ts cs) : Spaced ts (ws ++ cs) := by
  cases hcs with
  | nil h' => exact .nil (h.append h')
  | cons h' t hrest =>
    rw [← List.append_assoc]
    exact .cons (h.append h') t hrest

/-- A token without blanks before it. -/
theorem token (t : List Char) (h : Spaced ts cs) : Spaced (t :: ts) (t ++ cs) :=
  .cons blanks_nil t h

/-- A token is its own text. -/
theorem single (t : List Char) : Spaced [t] t := by
  simpa using Spaced.token t (.nil blanks_nil)

/-- Two texts one after the other hold the tokens of both. -/
theorem append (hcs : Spaced ts cs) (hds : Spaced us ds) : Spaced (ts ++ us) (cs ++ ds) := by
  induction hcs with
  | nil h => exact hds.blanks_append h
  | cons h t _ ih =>
    rw [List.append_assoc, List.append_assoc]
    exact .cons h t ih

/-- A text is at least as long as its tokens are together. -/
theorem length_le (h : Spaced ts cs) : ts.flatten.length ≤ cs.length := by
  induction h with
  | nil => exact Nat.zero_le _
  | cons _ t _ ih =>
    simp only [List.flatten_cons, List.length_append]
    omega

/-- Behind the blanks at the front of a text stands its first token. -/
theorem skipBlanks {c : Char} {t : List Char} (h : Spaced ((c :: t) :: ts) cs) (hc : isBlank c = false) :
    ∃ rest, skipBlanks cs = c :: (t ++ rest) ∧ Spaced ts rest := by
  cases h with
  | cons hws _ hrest =>
    refine ⟨_, ?_, hrest⟩
    rw [hws.skipBlanks, List.cons_append, Json.skipBlanks, if_neg (by simp [hc])]

end Spaced

/-! ## The two written forms -/

/-- A line break and blanks. -/
theorem blanks_lineAt (level : Nat) : Blanks (lineAt level) := by
  intro c hc
  rcases List.mem_cons.mp hc with rfl | hc
  · rfl
  · rw [List.eq_of_mem_replicate hc]
    rfl

/-- The blank behind a colon. -/
theorem blanks_space : Blanks [' '] := by
  intro c hc
  rw [List.mem_singleton.mp hc]
  rfl

mutual

/-- The compact form is a text of the value. -/
theorem spaced_compactChars : ∀ v : Json, Spaced v.tokens v.compactChars
  | .array values => (spaced_compactItems values).token ['[']
  | .object pairs => (spaced_compactMembers pairs).token ['\x7b']
  | .null => .single (scalar .null)
  | .boolean b => .single (scalar (.boolean b))
  | .integer n => .single (scalar (.integer n))
  | .string s => .single (scalar (.string s))

/-- So are the items of a list, and its bracket. -/
theorem spaced_compactItems : ∀ values : List Json, Spaced (itemTokens true values) (compactItems values)
  | [] => .single [']']
  | [v] => (spaced_compactChars v).append (Spaced.single [']'])
  | v :: w :: rest => by
    have htail := (spaced_compactItems (w :: rest)).token [',']
    rw [← itemTokens_false_cons] at htail
    exact (spaced_compactChars v).append htail

/-- So are the members of an object, and its brace. -/
theorem spaced_compactMembers : ∀ pairs : List (String × Json), Spaced (memberTokens true pairs) (compactMembers pairs)
  | [] => .single ['\x7d']
  | [(key, v)] => by
    have hvalue := (spaced_compactChars v).append (Spaced.single ['\x7d'])
    simpa [memberTokens, compactMembers] using (hvalue.token [':']).token (quote key)
  | (key, v) :: w :: rest => by
    have htail := (spaced_compactMembers (w :: rest)).token [',']
    rw [← memberTokens_false_cons] at htail
    have hvalue := (spaced_compactChars v).append htail
    simpa [memberTokens, compactMembers] using (hvalue.token [':']).token (quote key)

end

mutual

/-- The indented form is a text of the value. -/
theorem spaced_indentedChars : ∀ (level : Nat) (v : Json), Spaced v.tokens (v.indentedChars level)
  | _, .array [] => (Spaced.single [']']).token ['[']
  | level, .array (v :: rest) => (spaced_indentedItems level (v :: rest)).token ['[']
  | _, .object [] => (Spaced.single ['\x7d']).token ['\x7b']
  | level, .object (m :: rest) => (spaced_indentedMembers level (m :: rest)).token ['\x7b']
  | _, .null => .single (scalar .null)
  | _, .boolean b => .single (scalar (.boolean b))
  | _, .integer n => .single (scalar (.integer n))
  | _, .string s => .single (scalar (.string s))

/-- So are the items of a list, each on its line. -/
theorem spaced_indentedItems : ∀ (level : Nat) (values : List Json),
    Spaced (itemTokens true values) (indentedItems level values)
  | level, [] => (Spaced.single [']']).blanks_append (blanks_lineAt level)
  | level, [v] => by
    have hclose := (Spaced.single [']']).blanks_append (blanks_lineAt level)
    have hvalue := ((spaced_indentedChars (level + 1) v).append hclose).blanks_append (blanks_lineAt (level + 1))
    simpa [itemTokens, indentedItems] using hvalue
  | level, v :: w :: rest => by
    have htail := (spaced_indentedItems level (w :: rest)).token [',']
    rw [← itemTokens_false_cons] at htail
    have hvalue := ((spaced_indentedChars (level + 1) v).append htail).blanks_append (blanks_lineAt (level + 1))
    simpa [itemTokens, indentedItems] using hvalue

/-- So are the members of an object, each on its line. -/
theorem spaced_indentedMembers : ∀ (level : Nat) (pairs : List (String × Json)),
    Spaced (memberTokens true pairs) (indentedMembers level pairs)
  | level, [] => (Spaced.single ['\x7d']).blanks_append (blanks_lineAt level)
  | level, [(key, v)] => by
    have hclose := (Spaced.single ['\x7d']).blanks_append (blanks_lineAt level)
    have hvalue := ((spaced_indentedChars (level + 1) v).append hclose).blanks_append blanks_space
    have hmember := ((hvalue.token [':']).token (quote key)).blanks_append (blanks_lineAt (level + 1))
    simpa [memberTokens, indentedMembers] using hmember
  | level, (key, v) :: w :: rest => by
    have htail := (spaced_indentedMembers level (w :: rest)).token [',']
    rw [← memberTokens_false_cons] at htail
    have hvalue := ((spaced_indentedChars (level + 1) v).append htail).blanks_append blanks_space
    have hmember := ((hvalue.token [':']).token (quote key)).blanks_append (blanks_lineAt (level + 1))
    simpa [memberTokens, indentedMembers] using hmember

end

/-- A text of a value: its tokens, with any blanks between them. -/
def IsTextOf (text : String) (v : Json) : Prop :=
  Spaced v.tokens text.toList

/-- The compact text of a value is one of its texts. -/
theorem compact_isTextOf (v : Json) : IsTextOf v.compact v := by
  rw [IsTextOf, compact, String.toList_ofList]
  exact spaced_compactChars v

/-- So is the indented one. -/
theorem indented_isTextOf (v : Json) : IsTextOf v.indented v := by
  rw [IsTextOf, indented, String.toList_ofList]
  exact spaced_indentedChars 0 v

end DataRequests.Json
