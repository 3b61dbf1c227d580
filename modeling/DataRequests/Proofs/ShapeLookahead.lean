import DataRequests.Proofs.ValueLookahead

/-!
# What readers of shapes take from a text

Whatever the shape is, a reader takes its value from the front of a text and does not depend on what follows it (`takes_under`). The
depth of the containers that are entered plays no role in it: each level takes what the one inside it takes.
-/

namespace DataRequests.Json

variable {ν α : Type}

/-! ## Between items -/

/-- An item is found where it begins, whatever follows its first character. -/
theorem exists_of_nextItem {first : Bool} {cs start : List Char} (h : nextItem first cs = .ok (some start)) :
    ∃ p c more, start = c :: more ∧ cs = p ++ start ∧ ∀ more, nextItem first (p ++ c :: more) = .ok (some (c :: more)) := by
  unfold nextItem at h
  split at h
  · cases h
  · next c rest hskip =>
    obtain ⟨ws, rfl, hblanks⟩ := exists_of_skipBlanks hskip
    split at h
    · cases h
    · next hclose =>
      split at h
      · next hfirst =>
        cases h
        refine ⟨ws, c, rest, rfl, rfl, fun more => ?_⟩
        simp only [nextItem, hblanks, if_neg hclose, if_pos hfirst]
      · next hfirst =>
        split at h
        · next hcomma =>
          split at h
          · cases h
          · next d start' hskip' =>
            obtain ⟨ws', rfl, hblanks'⟩ := exists_of_skipBlanks hskip'
            split at h
            · cases h
            · next hclose' =>
              cases h
              refine ⟨ws ++ c :: ws', d, start', rfl, by simp, fun more => ?_⟩
              simp only [nextItem, List.append_assoc, List.cons_append, hblanks, if_neg hclose, if_neg hfirst, if_pos hcomma,
                hblanks', if_neg hclose']
        · cases h

/-- An item is found where it is taken from, whatever follows it. -/
theorem exists_of_item {item : Reader α} (hitem : Takes 1 item) {first : Bool} {cs start rest : List Char} {v : α}
    (hstart : nextItem first cs = .ok (some start)) (h : item start = .ok (v, rest)) :
    ∃ p q, 1 ≤ q.length ∧ cs = p ++ (q ++ rest) ∧ ∀ rest', Meets rest rest' →
      nextItem first (p ++ (q ++ rest')) = .ok (some (q ++ rest')) ∧ item (q ++ rest') = .ok (v, rest') := by
  obtain ⟨p, c, more, rfl, rfl, hnext⟩ := exists_of_nextItem hstart
  obtain ⟨q, hq, hmore, hnew⟩ := hitem _ v rest h
  obtain ⟨q, rfl⟩ := exists_cons_of_append hq hmore
  obtain rfl : more = q ++ rest := (List.cons.inj hmore).2
  exact ⟨p, c :: q, hq, rfl, fun rest' hmeets => ⟨hnext _, hnew rest' hmeets⟩⟩

/-- Where no item is found, the closing bracket stands. -/
theorem exists_of_nextItem_none {first : Bool} {cs : List Char} (h : nextItem first cs = .ok none) :
    ∃ ws rest, cs = ws ++ ']' :: rest ∧ ∀ more, skipBlanks (ws ++ ']' :: more) = ']' :: more := by
  unfold nextItem at h
  split at h
  · cases h
  · next c rest hskip =>
    obtain ⟨ws, rfl, hblanks⟩ := exists_of_skipBlanks hskip
    split at h
    · next hclose =>
      subst hclose
      exact ⟨ws, rest, rfl, hblanks⟩
    · split at h
      · cases h
      · split at h
        · split at h
          · cases h
          · split at h <;> cases h
        · cases h

/-- In front of the closing bracket there is no other item. -/
theorem nextItem_of_skipBlanks {cs rest : List Char} (h : skipBlanks cs = ']' :: rest) (first : Bool) :
    nextItem first cs = .ok none := by
  simp [nextItem, h]

/-- At the closing bracket the list is closed. -/
theorem closeList_of_skipBlanks {cs rest : List Char} (h : skipBlanks cs = ']' :: rest) : closeList cs = .ok rest := by
  simp [closeList, h]

/-- Closing a list takes its bracket. -/
theorem marks_closeList : Marks closeList := by
  intro cs rest h
  unfold closeList at h
  split at h
  · cases h
  · next c rest hskip =>
    obtain ⟨ws, rfl, hblanks⟩ := exists_of_skipBlanks hskip
    split at h
    · next hclose =>
      cases h
      subst hclose
      refine ⟨ws ++ [']'], by simp, by simp, fun rest' => closeList_of_skipBlanks ?_⟩
      rw [List.append_assoc]
      exact hblanks rest'
    · split at h
      · split at h <;> cases h
      · cases h

/-! ## Lists -/

/-- The items of a list are taken up to its bracket, with a step for each. -/
theorem takesIn_items {item : Reader Json} (hitem : Takes 1 item) (fuel : Nat) (first : Bool) :
    TakesIn 1 0 (fun fuel => readItems item fuel first) fuel := by
  induction fuel generalizing first with
  | zero => exact fun cs v rest h => by cases h
  | succ fuel ih =>
    intro cs v rest h
    dsimp only [readItems] at h
    split at h
    · cases h
    · next hnone =>
      obtain ⟨rest, hclose, hv⟩ := exists_of_map_eq_ok h
      cases hv
      obtain ⟨ws, rest, rfl, hblanks⟩ := exists_of_nextItem_none hnone
      rw [closeList_of_skipBlanks (hblanks rest)] at hclose
      cases hclose
      refine ⟨ws ++ [']'], by simp, by simp, fun rest' fuel' _ hfuel => ?_⟩
      simp only [List.length_append, List.length_singleton] at hfuel
      obtain ⟨fuel', rfl⟩ := Nat.exists_eq_succ_of_ne_zero (by omega : fuel' ≠ 0)
      simp only [List.append_assoc, List.singleton_append, readItems, nextItem_of_skipBlanks (hblanks rest'),
        closeList_of_skipBlanks (hblanks rest'), Except.map]
    · next start hstart =>
      split at h
      · cases h
      · next value middle hvalue =>
        obtain ⟨⟨values, _⟩, hvalues, hv⟩ := exists_of_map_eq_ok h
        cases hv
        obtain ⟨p, q, hq, rfl, hnew⟩ := exists_of_item hitem hstart hvalue
        obtain ⟨q', hq', rfl, hnew'⟩ := ih false _ _ _ hvalues
        refine ⟨p ++ (q ++ q'), by simp; omega, by simp, fun rest' fuel' hmeets hfuel => ?_⟩
        simp only [List.length_append] at hfuel
        obtain ⟨fuel', rfl⟩ := Nat.exists_eq_succ_of_ne_zero (by omega : fuel' ≠ 0)
        obtain ⟨hnext, hitem'⟩ := hnew (q' ++ rest') (hmeets.append q')
        have hrest := hnew' rest' fuel' hmeets (by omega)
        dsimp only at hrest
        simp only [List.append_assoc, readItems, hnext, hitem', hrest, Except.map]

/-- Where the list ends, the fields that are left have their values by position, and nothing is taken for them. -/
theorem readPositions_of_end {item : Shape ν → Reader Json} {r : Record ν} {fields : List (Field ν)} {index : Nat}
    {cs middle more : List Char} {members : List (String × Json)} (hend : skipBlanks cs = ']' :: more)
    (h : readPositions item r fields index cs = .ok (members, middle)) :
    middle = cs ∧ ∀ cs' more', skipBlanks cs' = ']' :: more' → readPositions item r fields index cs' = .ok (members, cs') := by
  induction fields generalizing index members with
  | nil =>
    cases h
    exact ⟨rfl, fun _ _ _ => rfl⟩
  | cons f fields ih =>
    simp only [readPositions, nextItem_of_skipBlanks hend] at h
    split at h
    · cases h
    · next value hvalue =>
      obtain ⟨⟨members, _⟩, hmembers, hv⟩ := exists_of_map_eq_ok h
      cases hv
      obtain ⟨rfl, hnew⟩ := ih hmembers
      refine ⟨rfl, fun cs' more' hend' => ?_⟩
      simp only [readPositions, nextItem_of_skipBlanks hend', hvalue, hnew cs' more' hend', Except.map]

/-- The closing bracket behind what a reader takes. -/
def readClosed (read : Reader α) : Reader α := fun cs =>
  match read cs with
  | .error e => .error e
  | .ok (v, rest) => (closeList rest).map (v, ·)

/-- A reader and the bracket behind what it takes succeed one after the other. -/
theorem exists_of_readClosed {read : Reader α} {cs rest : List Char} {v : α} (h : readClosed read cs = .ok (v, rest)) :
    ∃ middle, read cs = .ok (v, middle) ∧ closeList middle = .ok rest := by
  unfold readClosed at h
  split at h
  · cases h
  · next hread =>
    obtain ⟨_, hclose, hv⟩ := exists_of_map_eq_ok h
    cases hv
    exact ⟨_, hread, hclose⟩

/-- When they do, the two succeed together. -/
theorem readClosed_eq {read : Reader α} {cs middle rest : List Char} {v : α} (hread : read cs = .ok (v, middle))
    (hclose : closeList middle = .ok rest) : readClosed read cs = .ok (v, rest) := by
  simp only [readClosed, hread, hclose, Except.map]

/-- The fields by position are taken up to the bracket. -/
theorem takes_positions {item : Shape ν → Reader Json} (hitem : ∀ s, Takes 1 (item s)) (r : Record ν) (fields : List (Field ν))
    (index : Nat) : Takes 1 (readClosed (readPositions item r fields index)) := by
  induction fields generalizing index with
  | nil =>
    intro cs v rest h
    obtain ⟨middle, hread, hclose⟩ := exists_of_readClosed h
    cases hread
    obtain ⟨p, hp, rfl, hnew⟩ := marks_closeList _ _ hclose
    exact ⟨p, hp, rfl, fun rest' _ => readClosed_eq rfl (hnew rest')⟩
  | cons f fields ih =>
    intro cs v rest h
    obtain ⟨middle, hread, hclose⟩ := exists_of_readClosed h
    cases hnext : nextItem (index = 0) cs with
    | error e => simp [readPositions, hnext] at hread
    | ok found =>
      cases found with
      | none =>
        obtain ⟨ws, more, rfl, hblanks⟩ := exists_of_nextItem_none hnext
        obtain ⟨rfl, hnew⟩ := readPositions_of_end (hblanks more) hread
        rw [closeList_of_skipBlanks (hblanks more)] at hclose
        cases hclose
        refine ⟨ws ++ [']'], by simp, by simp, fun rest' _ => ?_⟩
        rw [List.append_assoc]
        exact readClosed_eq (hnew _ _ (hblanks rest')) (closeList_of_skipBlanks (hblanks rest'))
      | some start =>
        simp only [readPositions, hnext] at hread
        split at hread
        · cases hread
        · next value rest' hvalue =>
          obtain ⟨⟨members, _⟩, hmembers, hv⟩ := exists_of_map_eq_ok hread
          cases hv
          obtain ⟨p, q, hq, rfl, hnew⟩ := exists_of_item (hitem f.shape) hnext hvalue
          obtain ⟨q', hq', rfl, hnew'⟩ := ih (index + 1) _ _ _ (readClosed_eq hmembers hclose)
          refine ⟨p ++ (q ++ q'), by simp; omega, by simp, fun rest' hmeets => ?_⟩
          obtain ⟨hnext', hitem'⟩ := hnew (q' ++ rest') (hmeets.append q')
          obtain ⟨middle', hmembers', hclose'⟩ := exists_of_readClosed (hnew' rest' hmeets)
          refine readClosed_eq ?_ hclose'
          simp only [List.append_assoc, readPositions, hnext', hitem', hmembers', Except.map]

/-- A pair takes both of its items and the bracket. -/
theorem takes_pair {first second : Reader Json} (hfirst : Takes 1 first) (hsecond : Takes 1 second) :
    Takes 1 (readPair first second) := by
  intro cs v rest h
  unfold readPair at h
  split at h
  · cases h
  · cases h
  · next hstart =>
    split at h
    · cases h
    · next hone =>
      obtain ⟨p, q, hq, rfl, hnew⟩ := exists_of_item hfirst hstart hone
      split at h
      · cases h
      · cases h
      · next hstart' =>
        split at h
        · cases h
        · next htwo =>
          obtain ⟨p', q', -, rfl, hnew'⟩ := exists_of_item hsecond hstart' htwo
          obtain ⟨_, hclose, hv⟩ := exists_of_map_eq_ok h
          cases hv
          obtain ⟨q'', -, rfl, hnew''⟩ := marks_closeList _ _ hclose
          refine ⟨p ++ (q ++ (p' ++ (q' ++ q''))), by simp; omega, by simp, fun rest' hmeets => ?_⟩
          obtain ⟨hnext, hone'⟩ := hnew (p' ++ (q' ++ (q'' ++ rest'))) (((hmeets.append q'').append q').append p')
          obtain ⟨hnext', htwo'⟩ := hnew' (q'' ++ rest') (hmeets.append q'')
          simp only [List.append_assoc, readPair, hnext, hone', hnext', htwo', hnew'', Except.map]

/-! ## Objects -/

/-- A colon is one character. -/
theorem marks_readColon : Marks readColon :=
  marks_char

/-- So is the brace behind a variant. -/
theorem marks_closeVariant : Marks closeVariant :=
  marks_char

/-- A value is taken with the colon in front of it. -/
theorem Takes.afterColon {read : Reader α} {n : Nat} (h : Takes n read) : Takes n (readAfterColon read) := by
  intro cs v rest hread
  unfold readAfterColon at hread
  split at hread
  · cases hread
  · next hcolon =>
    obtain ⟨p, -, rfl, hnew⟩ := marks_readColon _ _ hcolon
    obtain ⟨q, hq, rfl, hnew'⟩ := h _ _ _ hread
    refine ⟨p ++ q, by simp; omega, by simp, fun rest' hmeets => ?_⟩
    simp only [List.append_assoc, readAfterColon, hnew, hnew' rest' hmeets]

/-- A key is taken as a string. -/
theorem takes_key : Takes 1 nextKey.key := by
  refine .of_cons (f := fun c rest => nextKey.key (c :: rest)) ⟨_, rfl⟩ (fun _ _ => rfl) fun c => ?_
  simp only [nextKey.key]
  exact .ite (fun _ => (takes_string.map some).weak) fun _ => takes_error 0 _

/-- The next key is taken with the comma in front of it, and the end of an object with its brace. -/
theorem takes_nextKey (first : Bool) : Takes 1 (nextKey first) := by
  unfold nextKey
  refine Takes.next fun c => .ite (fun _ => takes_pure none) fun _ => .ite (fun _ => takes_key.cons c) fun _ =>
    .ite (fun _ => ?_) fun _ => takes_error 0 _
  exact (Takes.next fun c => .ite (fun _ => takes_error 0 _) fun _ => takes_key.cons c).weak

/-- The members of an object with any keys are taken up to its brace, with a step for each. -/
theorem takesIn_table {item : Reader Json} (hitem : Takes 1 item) (fuel : Nat) (first : Bool) :
    TakesIn 1 0 (fun fuel => readTable item fuel first) fuel := by
  induction fuel generalizing first with
  | zero => exact fun cs v rest h => by cases h
  | succ fuel ih =>
    intro cs v rest h
    dsimp only [readTable] at h
    split at h
    · cases h
    · next hkey =>
      cases h
      obtain ⟨p, hp, rfl, hnew⟩ := takes_nextKey _ _ _ _ hkey
      refine ⟨p, hp, rfl, fun rest' fuel' hmeets hfuel => ?_⟩
      obtain ⟨fuel', rfl⟩ := Nat.exists_eq_succ_of_ne_zero (by omega : fuel' ≠ 0)
      simp only [readTable, hnew rest' hmeets]
    · next key middle hkey =>
      obtain ⟨p, hp, rfl, hnew⟩ := takes_nextKey _ _ _ _ hkey
      split at h
      · cases h
      · next hvalue =>
        obtain ⟨q, -, rfl, hnew'⟩ := hitem.afterColon _ _ _ hvalue
        obtain ⟨⟨members, _⟩, hmembers, hv⟩ := exists_of_map_eq_ok h
        cases hv
        obtain ⟨q', hq', rfl, hnew''⟩ := ih false _ _ _ hmembers
        refine ⟨p ++ (q ++ q'), by simp; omega, by simp, fun rest' fuel' hmeets hfuel => ?_⟩
        simp only [List.length_append] at hfuel
        obtain ⟨fuel', rfl⟩ := Nat.exists_eq_succ_of_ne_zero (by omega : fuel' ≠ 0)
        have hrest := hnew'' rest' fuel' hmeets (by omega)
        dsimp only at hrest
        simp only [List.append_assoc, readTable, hnew _ ((hmeets.append q').append q), hnew' _ (hmeets.append q'), hrest, Except.map]

/-- So are the members of a record, those that are passed over included. -/
theorem takesIn_members {item : Shape ν → Reader Json} (hitem : ∀ s, Takes 1 (item s)) (r : Record ν) (fuel : Nat) (first : Bool)
    (seen : List (String × Json)) : TakesIn 1 0 (fun fuel => readMembers item r fuel first seen) fuel := by
  induction fuel generalizing first seen with
  | zero => exact fun cs v rest h => by cases h
  | succ fuel ih =>
    intro cs v rest h
    dsimp only [readMembers] at h
    split at h
    · cases h
    · next hkey =>
      obtain ⟨members, hmembers, hv⟩ := exists_of_map_eq_ok h
      cases hv
      obtain ⟨p, hp, rfl, hnew⟩ := takes_nextKey _ _ _ _ hkey
      refine ⟨p, hp, rfl, fun rest' fuel' hmeets hfuel => ?_⟩
      obtain ⟨fuel', rfl⟩ := Nat.exists_eq_succ_of_ne_zero (by omega : fuel' ≠ 0)
      simp only [readMembers, hnew rest' hmeets, hmembers, Except.map]
    · next key middle hkey =>
      obtain ⟨p, hp, rfl, hnew⟩ := takes_nextKey _ _ _ _ hkey
      split at h
      · next hfield =>
        split at h
        · cases h
        · next hstrict =>
          split at h
          · cases h
          · next hvalue =>
            obtain ⟨q, -, rfl, hnew'⟩ := takes_skipValue.afterColon _ _ _ hvalue
            obtain ⟨q', hq', rfl, hnew''⟩ := ih false seen _ _ _ h
            refine ⟨p ++ (q ++ q'), by simp; omega, by simp, fun rest' fuel' hmeets hfuel => ?_⟩
            simp only [List.length_append] at hfuel
            obtain ⟨fuel', rfl⟩ := Nat.exists_eq_succ_of_ne_zero (by omega : fuel' ≠ 0)
            simp only [List.append_assoc, readMembers, hnew _ ((hmeets.append q').append q), hfield, if_neg hstrict,
              hnew' _ (hmeets.append q')]
            exact hnew'' rest' fuel' hmeets (by omega)
      · next field hfield =>
        split at h
        · cases h
        · next hseen =>
          split at h
          · cases h
          · next hvalue =>
            obtain ⟨q, -, rfl, hnew'⟩ := (hitem field.shape).afterColon _ _ _ hvalue
            obtain ⟨q', hq', rfl, hnew''⟩ := ih false _ _ _ _ h
            refine ⟨p ++ (q ++ q'), by simp; omega, by simp, fun rest' fuel' hmeets hfuel => ?_⟩
            simp only [List.length_append] at hfuel
            obtain ⟨fuel', rfl⟩ := Nat.exists_eq_succ_of_ne_zero (by omega : fuel' ≠ 0)
            simp only [List.append_assoc, readMembers, hnew _ ((hmeets.append q').append q), hfield, if_neg hseen,
              hnew' _ (hmeets.append q')]
            exact hnew'' rest' fuel' hmeets (by omega)

/-- The length of a text is enough for the members or the items in it. -/
theorem TakesIn.read {read : Nat → Reader α} (h : ∀ fuel, TakesIn 1 0 read fuel) : Takes 1 fun cs => read (cs.length + 1) cs :=
  TakesIn.takes h (· + 1) fun _ _ => by omega

/-- A record is taken as an object or as a list by position. -/
theorem takes_record {item : Option (Shape ν → Reader Json)} (hitem : ∀ read, item = some read → ∀ s, Takes 1 (read s))
    (r : Record ν) : Takes 1 (readRecord item r) := by
  unfold readRecord
  refine Takes.next fun c => .ite (fun _ => ?_) fun _ => .ite (fun _ => ?_) fun _ => takes_error 0 _
  · cases item with
    | none => exact takes_error 0 _
    | some read =>
      intro cs v rest h
      dsimp only at h
      split at h
      · cases h
      · next hmembers =>
        obtain ⟨_, hclose, hv⟩ := exists_of_map_eq_ok h
        cases hv
        obtain ⟨p, hp, rfl, hnew⟩ := takes_positions (hitem read rfl) r r.fields 0 _ _ _ (readClosed_eq hmembers hclose)
        refine ⟨p, Nat.zero_le _, rfl, fun rest' hmeets => ?_⟩
        obtain ⟨middle, hread, hclose'⟩ := exists_of_readClosed (hnew rest' hmeets)
        simp only [hread, hclose', Except.map]
  · cases item with
    | none => exact takes_error 0 _
    | some read => exact ((TakesIn.read fun fuel => takesIn_members (hitem read rfl) r fuel true []).map Json.object).weak

/-! ## Choices -/

/-- What goes with the name of a variant is taken by its shape. -/
theorem takes_content {item : Shape ν → Reader Json} (hitem : ∀ s, Takes 1 (item s)) (variant : Variant ν) :
    Takes 1 (readContent item variant) := by
  unfold readContent
  cases variant.content with
  | none => exact (hitem _).map fun _ => Json.string variant.name
  | value shape => exact (hitem shape).map fun value => Json.object [(variant.name, value)]
  | fields name => exact (hitem (.part name)).map fun value => Json.object [(variant.name, value)]

/-- A choice is taken as the name of a variant, or as an object with the name as its key. -/
theorem takes_choice {item : Option (Shape ν → Reader Json)} (hitem : ∀ read, item = some read → ∀ s, Takes 1 (read s))
    (variants : List (Variant ν)) : Takes 1 (readChoice item variants) := by
  unfold readChoice
  refine Takes.next fun c => .ite (fun _ => ?_) fun _ => .ite (fun _ => ?_) fun _ => takes_error 0 _
  · intro cs v rest h
    dsimp only at h
    split at h
    · cases h
    · next hname =>
      obtain ⟨p, -, rfl, hnew⟩ := takes_string _ _ _ hname
      obtain ⟨value, hvalue, hv⟩ := exists_of_map_eq_ok h
      cases hv
      exact ⟨p, Nat.zero_le _, rfl, fun rest' hmeets => by simp only [hnew rest' hmeets, hvalue, Except.map]⟩
  · cases item with
    | none => exact takes_error 0 _
    | some read =>
      refine (Takes.next fun c => .ite (fun _ => ?_) fun _ => .ite (fun _ => takes_error 0 _) fun _ => takes_error 0 _).weak
      intro cs v rest h
      dsimp only at h
      split at h
      · cases h
      · next hname =>
        obtain ⟨p, -, rfl, hnew⟩ := takes_string _ _ _ hname
        split at h
        · cases h
        · next variant hvariant =>
          split at h
          · cases h
          · next hvalue =>
            obtain ⟨q, -, rfl, hnew'⟩ := (takes_content (hitem read rfl) variant).afterColon _ _ _ hvalue
            obtain ⟨_, hclose, hv⟩ := exists_of_map_eq_ok h
            cases hv
            obtain ⟨q', -, rfl, hnew''⟩ := marks_closeVariant _ _ hclose
            refine ⟨p ++ (q ++ q'), Nat.zero_le _, by simp, fun rest' hmeets => ?_⟩
            simp only [List.append_assoc, hnew _ ((hmeets.append q').append q), hvariant, hnew' _ (hmeets.append q'), hnew'',
              Except.map]

/-! ## Scalars -/

/-- A boolean takes one of two words. -/
theorem takes_boolean : Takes 1 readBoolean := by
  unfold readBoolean
  exact Takes.next fun c => .ite (fun _ => ((takes_word _).map fun _ => Json.boolean true).weak) fun _ =>
    .ite (fun _ => ((takes_word _).map fun _ => Json.boolean false).weak) fun _ => takes_error 0 _

/-- A text takes a string. -/
theorem takes_text : Takes 1 readText := by
  unfold readText
  exact Takes.next fun c => .ite (fun _ => (takes_string.map Json.string).weak) fun _ => takes_error 0 _

/-- What is `null` takes a word. -/
theorem takes_null (expected : String) : Takes 1 (readNull expected) := by
  unfold readNull
  exact Takes.next fun c => .ite (fun _ => ((takes_word _).map fun _ => Json.null).weak) fun _ => takes_error 0 _

/-- An integer of a range, where a number is read. -/
def readRanged (range : IntegerRange) (read : Reader Number) : Reader Json := fun cs =>
  match read cs with
  | .error e => .error e
  | .ok (.integer value, rest) =>
    if range.least ≤ value ∧ value ≤ range.greatest then .ok (.integer value, rest)
    else .error (.invalidValue (.integer value) range.name)
  | .ok (.double text, _) => .error (.invalidType (.double text) range.name)

/-- An integer of a range takes a number. -/
theorem takes_ranged (range : IntegerRange) {read : Reader Number} (h : Takes 1 read) : Takes 1 (readRanged range read) := by
  intro cs v rest hread
  unfold readRanged at hread
  split at hread
  · cases hread
  · next hnumber =>
    obtain ⟨p, hp, rfl, hnew⟩ := h _ _ _ hnumber
    split at hread
    · next hrange =>
      cases hread
      exact ⟨p, hp, rfl, fun rest' hmeets => by simp only [readRanged, hnew rest' hmeets, if_pos hrange]⟩
    · cases hread
  · cases hread

/-- The number may have a sign. -/
theorem takes_integer (range : IntegerRange) : Takes 1 (readInteger range) := by
  unfold readInteger
  exact Takes.next fun c => .ite (fun _ => (takes_ranged range (takes_number true)).weak) fun _ =>
    .ite (fun _ => (takes_ranged range (takes_number false)).cons c) fun _ => takes_error 0 _

/-! ## Values of any shape -/

/-- One level: a value is taken from the front when the reader of the inner level takes its values so. -/
theorem takes_shape (schema : Schema ν) {item : Option (Shape ν → Reader Json)}
    (hitem : ∀ read, item = some read → ∀ s, Takes 1 (read s)) (s : Shape ν) : Takes 1 (readShape schema item s) := by
  induction s with
  | string => exact takes_text
  | boolean => exact takes_boolean
  | integer range => exact takes_integer range
  | unit expected => exact takes_null expected
  | optional inner ih =>
    intro cs v rest h
    unfold readShape at h
    split at h
    · next start hskip =>
      obtain ⟨_, hword, hv⟩ := exists_of_map_eq_ok h
      cases hv
      obtain ⟨ws, rfl, hblanks⟩ := exists_of_skipBlanks hskip
      obtain ⟨p, -, rfl, hnew⟩ := takes_word _ _ _ _ hword
      refine ⟨ws ++ 'n' :: p, by simp; omega, by simp, fun rest' hmeets => ?_⟩
      simp only [List.append_assoc, List.cons_append, readShape, hblanks, hnew rest' hmeets, Except.map]
    · next hnull =>
      obtain ⟨p, hp, hcs, hnew⟩ := ih _ _ _ h
      obtain ⟨c, p, rfl⟩ := List.exists_cons_of_ne_nil (List.ne_nil_of_length_pos hp)
      obtain ⟨ws, rfl, hblanks⟩ := exists_of_skipBlanks hcs
      refine ⟨ws ++ c :: p, by simp; omega, by simp, fun rest' hmeets => ?_⟩
      have hblanks' := hblanks (p ++ rest')
      rw [List.append_assoc, List.cons_append, readShape, hblanks']
      split
      · next hmore => exact (hnull (p ++ rest) (by rw [hcs, (List.cons.inj hmore).1]; rfl)).elim
      · exact hnew rest' hmeets
  | list expected inner _ =>
    refine Takes.next fun c => .ite (fun _ => ?_) fun _ => takes_error 0 _
    cases item with
    | none => exact takes_error 0 _
    | some read =>
      exact ((TakesIn.read fun fuel => takesIn_items (hitem read rfl inner) fuel true).map Json.array).weak
  | pair first second _ _ =>
    refine Takes.next fun c => .ite (fun _ => ?_) fun _ => takes_error 0 _
    cases item with
    | none => exact takes_error 0 _
    | some read => exact (takes_pair (hitem read rfl first) (hitem read rfl second)).weak
  | table inner _ =>
    refine Takes.next fun c => .ite (fun _ => ?_) fun _ => takes_error 0 _
    cases item with
    | none => exact takes_error 0 _
    | some read =>
      exact ((TakesIn.read fun fuel => takesIn_table (hitem read rfl inner) fuel true).map Json.object).weak
  | part name =>
    cases hpart : schema name with
    | record r =>
      rw [readShape_record hpart]
      exact takes_record hitem r
    | choice variants =>
      rw [readShape_choice hpart]
      exact takes_choice hitem variants

/-- **What a value is taken from is the front of the text, and what follows it does not matter.** -/
theorem takes_under (schema : Schema ν) (n : Nat) (s : Shape ν) : Takes 1 (readUnder schema n s) := by
  induction n generalizing s with
  | zero => exact takes_shape schema (fun read h => by cases h) s
  | succ n ih =>
    refine takes_shape schema (fun read h => ?_) s
    cases h
    exact ih

end DataRequests.Json
