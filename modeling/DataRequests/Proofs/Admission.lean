import DataRequests.Proofs.JsonReading

/-!
# What readers hand on

Whatever the text is, a value that a reader hands on has the form that its shape allows (`Admits`): a record has all its fields in the
order of the schema, each with a value of its shape or with that of an absent member, and a choice is one of its variants. The form
also says how deep the values stand that were read: those of an absent member take no level, since nothing was entered for them.
-/

namespace DataRequests.Json

variable {ν α β : Type}

mutual

/-- A value may be handed on at a position of a shape where so many levels of containers are still free. -/
inductive Admits (schema : Schema ν) : Nat → Shape ν → Json → Prop where
  | string {n : Nat} (s : String) : Admits schema n .string (.string s)
  | boolean {n : Nat} (b : Bool) : Admits schema n .boolean (.boolean b)
  | integer {n : Nat} {range : IntegerRange} {value : Int} (hleast : range.least ≤ value) (hgreatest : value ≤ range.greatest) :
      Admits schema n (.integer range) (.integer value)
  | unit {n : Nat} (expected : String) : Admits schema n (.unit expected) .null
  | absent {n : Nat} (inner : Shape ν) : Admits schema n (.optional inner) .null
  | present {n : Nat} {inner : Shape ν} {v : Json} (h : Admits schema n inner v) : Admits schema n (.optional inner) v
  | list {n : Nat} {inner : Shape ν} {values : List Json} (expected : String) (h : ∀ v ∈ values, Admits schema n inner v) :
      Admits schema (n + 1) (.list expected inner) (.array values)
  | pair {n : Nat} {first second : Shape ν} {one two : Json} (hone : Admits schema n first one)
      (htwo : Admits schema n second two) : Admits schema (n + 1) (.pair first second) (.array [one, two])
  | table {n : Nat} {inner : Shape ν} {members : List (String × Json)} (h : ∀ m ∈ members, Admits schema n inner m.2) :
      Admits schema (n + 1) (.table inner) (.object members)
  | record {n : Nat} {name : ν} {r : Record ν} {members : List (String × Json)} (hpart : schema name = .record r)
      (h : AdmitsMembers schema n r.fields members) : Admits schema (n + 1) (.part name) (.object members)
  | bare {n : Nat} {name : ν} {variants : List (Variant ν)} {x : Variant ν} (hpart : schema name = .choice variants)
      (hx : x ∈ variants) (hcontent : x.content = .none) : Admits schema n (.part name) (.string x.name)
  | content {n : Nat} {name : ν} {variants : List (Variant ν)} {x : Variant ν} {inner : Shape ν} {v : Json}
      (hpart : schema name = .choice variants) (hx : x ∈ variants) (hinner : x.content.inner? = some inner)
      (h : Admits schema n inner v) : Admits schema (n + 1) (.part name) (.object [(x.name, v)])

/-- The members of a record: one for each field, with a value of its shape or with that of an absent member. -/
inductive AdmitsMembers (schema : Schema ν) : Nat → List (Field ν) → List (String × Json) → Prop where
  | nil (n : Nat) : AdmitsMembers schema n [] []
  | read {n : Nat} {f : Field ν} {fields : List (Field ν)} {v : Json} {members : List (String × Json)}
      (h : Admits schema n f.shape v) (hrest : AdmitsMembers schema n fields members) :
      AdmitsMembers schema n (f :: fields) ((f.name, v) :: members)
  | absent {n : Nat} {f : Field ν} {fields : List (Field ν)} {v : Json} {members : List (String × Json)}
      (h : f.absence.member = some v) (hrest : AdmitsMembers schema n fields members) :
      AdmitsMembers schema n (f :: fields) ((f.name, v) :: members)

end

/-- A value that is admitted for a record. -/
theorem Admits.exists_members {schema : Schema ν} {n : Nat} {name : ν} {r : Record ν} {v : Json}
    (h : Admits schema n (.part name) v) (hpart : schema name = .record r) :
    ∃ m members, n = m + 1 ∧ v = .object members ∧ AdmitsMembers schema m r.fields members := by
  cases h with
  | record hpart' hmembers =>
    cases hpart'.symm.trans hpart
    exact ⟨_, _, rfl, rfl, hmembers⟩
  | bare hpart' => cases hpart'.symm.trans hpart
  | content hpart' => cases hpart'.symm.trans hpart

/-- The first member of a record. -/
theorem AdmitsMembers.exists_cons {schema : Schema ν} {n : Nat} {f : Field ν} {fields : List (Field ν)}
    {members : List (String × Json)} (h : AdmitsMembers schema n (f :: fields) members) :
    ∃ v rest, members = (f.name, v) :: rest ∧ (Admits schema n f.shape v ∨ f.absence.member = some v) ∧
      AdmitsMembers schema n fields rest := by
  cases h with
  | read hv hrest => exact ⟨_, _, rfl, Or.inl hv, hrest⟩
  | absent hv hrest => exact ⟨_, _, rfl, Or.inr hv, hrest⟩

/-- A value is admitted for one variant of a choice. -/
def AdmitsVariant (schema : Schema ν) (n : Nat) (v : Json) (x : Variant ν) : Prop :=
  match x.content.inner? with
  | none => v = .string x.name
  | some inner => ∃ m w, n = m + 1 ∧ v = .object [(x.name, w)] ∧ Admits schema m inner w

/-- A value that is admitted for a choice. -/
theorem Admits.exists_variant {schema : Schema ν} {n : Nat} {name : ν} {variants : List (Variant ν)} {v : Json}
    (h : Admits schema n (.part name) v) (hpart : schema name = .choice variants) :
    ∃ x ∈ variants, AdmitsVariant schema n v x := by
  cases h with
  | record hpart' => cases hpart'.symm.trans hpart
  | bare hpart' hx hcontent =>
    cases hpart'.symm.trans hpart
    exact ⟨_, hx, by rw [AdmitsVariant, hcontent]; rfl⟩
  | content hpart' hx hinner hw =>
    cases hpart'.symm.trans hpart
    exact ⟨_, hx, by rw [AdmitsVariant, hinner]; exact ⟨_, _, rfl, rfl, hw⟩⟩

/-- Whatever text a reader takes a value from, the value has a property. -/
def Gives (read : Reader α) (P : α → Prop) : Prop :=
  ∀ (cs : List Char) (value : α) (rest : List Char), read cs = .ok (value, rest) → P value

/-- A mapped result is the image of a result. -/
theorem exists_of_map_eq_ok {x : Except ReadError α} {f : α → β} {b : β} (h : x.map f = .ok b) : ∃ a, x = .ok a ∧ f a = b := by
  cases x with
  | error e => cases h
  | ok a => exact ⟨a, rfl, Except.ok.inj h⟩

variable {schema : Schema ν} {n : Nat}

/-! ## Scalars -/

/-- A text is handed on as a string. -/
theorem gives_text : Gives readText (Admits schema n .string) := by
  intro cs v rest h
  unfold readText at h
  split at h
  · cases h
  · split at h
    · obtain ⟨⟨s, _⟩, -, hv⟩ := exists_of_map_eq_ok h
      cases hv
      exact .string s
    · cases h

/-- A boolean is handed on as one. -/
theorem gives_boolean : Gives readBoolean (Admits schema n .boolean) := by
  intro cs v rest h
  unfold readBoolean at h
  split at h
  · cases h
  · split at h
    · obtain ⟨_, -, hv⟩ := exists_of_map_eq_ok h
      cases hv
      exact .boolean true
    · split at h
      · obtain ⟨_, -, hv⟩ := exists_of_map_eq_ok h
        cases hv
        exact .boolean false
      · cases h

/-- What is `null` is handed on so. -/
theorem gives_null (expected : String) : Gives (readNull expected) (Admits schema n (.unit expected)) := by
  intro cs v rest h
  unfold readNull at h
  split at h
  · cases h
  · split at h
    · obtain ⟨_, -, hv⟩ := exists_of_map_eq_ok h
      cases hv
      exact .unit expected
    · cases h

/-- An integer that is handed on lies in its range. -/
theorem gives_integer (range : IntegerRange) : Gives (readInteger range) (Admits schema n (.integer range)) := by
  have hcheck {value : Int} {v : Json} {number rest : List Char}
      (h : (if range.least ≤ value ∧ value ≤ range.greatest then .ok (.integer value, number)
        else .error (ReadError.invalidValue (.integer value) range.name)) = Except.ok (v, rest)) :
      Admits schema n (.integer range) v := by
    split at h
    · next hrange =>
      cases h
      exact .integer hrange.1 hrange.2
    · cases h
  intro cs v rest h
  unfold readInteger at h
  dsimp only at h
  split at h
  · cases h
  · split at h
    · split at h
      · cases h
      · exact hcheck h
      · cases h
    · split at h
      · split at h
        · cases h
        · exact hcheck h
        · cases h
      · cases h

/-! ## Arrays -/

/-- The items that are handed on are those that the reader of an item gives. -/
theorem gives_items {item : Reader Json} {P : Json → Prop} (hitem : Gives item P) (fuel : Nat) (first : Bool) :
    Gives (readItems item fuel first) (fun values => ∀ v ∈ values, P v) := by
  induction fuel generalizing first with
  | zero =>
    intro cs values rest h
    cases h
  | succ fuel ih =>
    intro cs values rest h
    unfold readItems at h
    split at h
    · cases h
    · obtain ⟨_, -, hv⟩ := exists_of_map_eq_ok h
      cases hv
      exact fun v hv => absurd hv List.not_mem_nil
    · split at h
      · cases h
      · next value _ hvalue =>
        obtain ⟨⟨values, _⟩, hvalues, hv⟩ := exists_of_map_eq_ok h
        cases hv
        intro v hv
        rcases List.mem_cons.mp hv with rfl | hv
        · exact hitem _ _ _ hvalue
        · exact ih false _ _ _ hvalues v hv

/-- So are the two of a pair. -/
theorem gives_pair {first second : Reader Json} {P Q : Json → Prop} (hfirst : Gives first P) (hsecond : Gives second Q) :
    Gives (readPair first second) (fun v => ∃ one two, v = .array [one, two] ∧ P one ∧ Q two) := by
  intro cs v rest h
  unfold readPair at h
  split at h
  · cases h
  · cases h
  · split at h
    · cases h
    · next one _ hone =>
      split at h
      · cases h
      · cases h
      · split at h
        · cases h
        · next two _ htwo =>
          obtain ⟨_, -, hv⟩ := exists_of_map_eq_ok h
          cases hv
          exact ⟨one, two, rfl, hfirst _ _ _ hone, hsecond _ _ _ htwo⟩

/-! ## Objects -/

/-- A value after a key. -/
theorem Gives.afterColon {read : Reader α} {P : α → Prop} (h : Gives read P) : Gives (readAfterColon read) P := by
  intro cs v rest hread
  unfold readAfterColon at hread
  split at hread
  · cases hread
  · exact h _ _ _ hread

/-- So are the values of an object with any keys. -/
theorem gives_table {item : Reader Json} {P : Json → Prop} (hitem : Gives item P) (fuel : Nat) (first : Bool) :
    Gives (readTable item fuel first) (fun members => ∀ m ∈ members, P m.2) := by
  induction fuel generalizing first with
  | zero =>
    intro cs members rest h
    cases h
  | succ fuel ih =>
    intro cs members rest h
    unfold readTable at h
    split at h
    · cases h
    · cases h
      exact fun m hm => absurd hm List.not_mem_nil
    · split at h
      · cases h
      · next value _ hvalue =>
        obtain ⟨⟨members, _⟩, hmembers, hv⟩ := exists_of_map_eq_ok h
        cases hv
        intro m hm
        rcases List.mem_cons.mp hm with rfl | hm
        · exact hitem.afterColon _ _ _ hvalue
        · exact ih false _ _ _ hmembers m hm

/-- A field that a list by position may leave out may be left out of an object. -/
theorem Absence.member_of_position {a : Absence} {v : Json} (h : a.position = some v) : a.member = some v := by
  cases a with
  | missing => cases h
  | default value => exact h
  | nullMember => cases h

/-- The fields that are given by position are members of a record. -/
theorem gives_positions {item : Shape ν → Reader Json} (hitem : ∀ s, Gives (item s) (Admits schema n s)) (r : Record ν)
    (fields : List (Field ν)) (index : Nat) : Gives (readPositions item r fields index) (AdmitsMembers schema n fields) := by
  induction fields generalizing index with
  | nil =>
    intro cs members rest h
    cases h
    exact .nil n
  | cons f fields ih =>
    intro cs members rest h
    unfold readPositions at h
    split at h
    · cases h
    · split at h
      · cases h
      · next value hvalue =>
        obtain ⟨⟨members, _⟩, hmembers, hv⟩ := exists_of_map_eq_ok h
        cases hv
        exact .absent (Absence.member_of_position hvalue) (ih _ _ _ _ hmembers)
    · split at h
      · cases h
      · next value _ hvalue =>
        obtain ⟨⟨members, _⟩, hmembers, hv⟩ := exists_of_map_eq_ok h
        cases hv
        exact .read (hitem _ _ _ _ hvalue) (ih _ _ _ _ hmembers)

/-- A record is completed with values of the members that were read or with those of absent ones. -/
theorem admitsMembers_of_complete {seen members : List (String × Json)} {fields : List (Field ν)}
    (hseen : ∀ f ∈ fields, ∀ v, member? f.name seen = some v → Admits schema n f.shape v)
    (h : completeMembers seen fields = .ok members) : AdmitsMembers schema n fields members := by
  induction fields generalizing members with
  | nil =>
    cases h
    exact .nil n
  | cons f fields ih =>
    unfold completeMembers at h
    split at h
    · cases h
    · next value hvalue =>
      obtain ⟨members, hmembers, hv⟩ := exists_of_map_eq_ok h
      cases hv
      have hrest := ih (fun g hg => hseen g (List.mem_cons_of_mem f hg)) hmembers
      cases hmember : member? f.name seen with
      | none =>
        rw [hmember, Option.none_or] at hvalue
        exact .absent hvalue hrest
      | some v =>
        rw [hmember, Option.some_or] at hvalue
        cases hvalue
        exact .read (hseen f List.mem_cons_self _ hmember) hrest

/-- The members of an object are those of a record, when what has been read of them is. -/
theorem gives_members {item : Shape ν → Reader Json} (hitem : ∀ s, Gives (item s) (Admits schema n s)) {r : Record ν}
    (hnames : (r.fields.map (·.name)).Nodup) (fuel : Nat) (first : Bool) {seen : List (String × Json)}
    (hseen : ∀ f ∈ r.fields, ∀ v, member? f.name seen = some v → Admits schema n f.shape v) :
    Gives (readMembers item r fuel first seen) (AdmitsMembers schema n r.fields) := by
  induction fuel generalizing first seen with
  | zero =>
    intro cs members rest h
    cases h
  | succ fuel ih =>
    intro cs members rest h
    unfold readMembers at h
    split at h
    · cases h
    · obtain ⟨_, hmembers, hv⟩ := exists_of_map_eq_ok h
      cases hv
      exact admitsMembers_of_complete hseen hmembers
    · next key _ _ =>
      split at h
      · split at h
        · cases h
        · split at h
          · cases h
          · exact ih false hseen _ _ _ h
      · next field hfield =>
        split at h
        · cases h
        · split at h
          · cases h
          · next value _ hvalue =>
            -- A field of the key that was just read is the one that was looked up, since no name stands twice.
            refine ih false ?_ _ _ _ h
            intro f hf v hv
            rw [member?_append] at hv
            cases hmember : member? f.name seen with
            | some w =>
              rw [hmember, Option.some_or] at hv
              cases hv
              exact hseen f hf _ hmember
            | none =>
              rw [hmember, Option.none_or] at hv
              simp only [member?, Option.ite_none_right_eq_some] at hv
              obtain ⟨rfl, hv⟩ := hv
              cases hv
              have hsame : some field = some f := hfield.symm.trans (find?_name hnames hf)
              cases hsame
              exact (hitem field.shape).afterColon _ _ _ hvalue

theorem gives_record {item : Option (Shape ν → Reader Json)}
    (hitem : ∀ read, item = some read → ∃ m, n = m + 1 ∧ ∀ s, Gives (read s) (Admits schema m s)) {name : ν} {r : Record ν}
    (hpart : schema name = .record r) (hnames : (r.fields.map (·.name)).Nodup) :
    Gives (readRecord item r) (Admits schema n (.part name)) := by
  intro cs v rest h
  unfold readRecord at h
  split at h
  · cases h
  · split at h
    · split at h
      · cases h
      · obtain ⟨m, rfl, hread⟩ := hitem _ rfl
        split at h
        · cases h
        · next hmembers =>
          obtain ⟨_, -, hv⟩ := exists_of_map_eq_ok h
          cases hv
          exact .record hpart (gives_positions hread r r.fields 0 _ _ _ hmembers)
    · split at h
      · split at h
        · cases h
        · obtain ⟨m, rfl, hread⟩ := hitem _ rfl
          obtain ⟨_, hmembers, hv⟩ := exists_of_map_eq_ok h
          cases hv
          exact .record hpart (gives_members hread hnames _ true (fun f _ v hv => by cases hv) _ _ _ hmembers)
      · cases h

/-! ## Choices -/

/-- A variant that is found is one of them. -/
theorem mem_of_findVariant {variants : List (Variant ν)} {name : String} {x : Variant ν} (h : findVariant variants name = .ok x) :
    x ∈ variants := by
  unfold findVariant at h
  split at h
  · cases h
  · next hfind =>
    cases h
    exact List.mem_of_find?_eq_some hfind

/-- A variant that is given by its name alone has no content. -/
theorem admits_of_bare {name : ν} {variants : List (Variant ν)} (hpart : schema name = .choice variants) {given : String} {v : Json}
    (h : (findVariant variants given).bind bareVariant = .ok v) : Admits schema n (.part name) v := by
  cases hfind : findVariant variants given with
  | error e =>
    rw [hfind] at h
    cases h
  | ok x =>
    rw [hfind, Except.bind, bareVariant] at h
    split at h
    · next hcontent =>
      cases h
      exact .bare hpart (mem_of_findVariant hfind) hcontent
    · cases h
    · cases h

theorem gives_content {item : Shape ν → Reader Json} (hitem : ∀ s, Gives (item s) (Admits schema n s)) {name : ν}
    {variants : List (Variant ν)} (hpart : schema name = .choice variants) {x : Variant ν} (hx : x ∈ variants) :
    Gives (readContent item x) (Admits schema (n + 1) (.part name)) := by
  intro cs v rest h
  unfold readContent at h
  split at h
  · next hcontent =>
    obtain ⟨_, -, hv⟩ := exists_of_map_eq_ok h
    cases hv
    exact .bare hpart hx hcontent
  · next shape hcontent =>
    obtain ⟨_, hvalue, hv⟩ := exists_of_map_eq_ok h
    cases hv
    exact .content hpart hx (by rw [hcontent]; rfl) (hitem shape _ _ _ hvalue)
  · next record hcontent =>
    obtain ⟨_, hvalue, hv⟩ := exists_of_map_eq_ok h
    cases hv
    exact .content hpart hx (by rw [hcontent]; rfl) (hitem (.part record) _ _ _ hvalue)

theorem gives_choice {item : Option (Shape ν → Reader Json)}
    (hitem : ∀ read, item = some read → ∃ m, n = m + 1 ∧ ∀ s, Gives (read s) (Admits schema m s)) {name : ν}
    {variants : List (Variant ν)} (hpart : schema name = .choice variants) :
    Gives (readChoice item variants) (Admits schema n (.part name)) := by
  intro cs v rest h
  unfold readChoice at h
  split at h
  · cases h
  · split at h
    · split at h
      · cases h
      · obtain ⟨_, hbare, hv⟩ := exists_of_map_eq_ok h
        cases hv
        exact admits_of_bare hpart hbare
    · split at h
      · split at h
        · cases h
        · obtain ⟨m, rfl, hread⟩ := hitem _ rfl
          split at h
          · cases h
          · split at h
            · split at h
              · cases h
              · split at h
                · cases h
                · next hfind =>
                  split at h
                  · cases h
                  · next hvalue =>
                    obtain ⟨_, -, hv⟩ := exists_of_map_eq_ok h
                    cases hv
                    exact (gives_content hread hpart (mem_of_findVariant hfind)).afterColon _ _ _ hvalue
            · split at h
              · cases h
              · cases h
      · cases h

/-! ## Values of any shape -/

/-- One level: what is handed on has the form of its shape, when what the reader of the inner level hands on has. -/
theorem gives_shape (hnames : ∀ name, (schema name).names.Nodup) {item : Option (Shape ν → Reader Json)}
    (hitem : ∀ read, item = some read → ∃ m, n = m + 1 ∧ ∀ s, Gives (read s) (Admits schema m s)) (s : Shape ν) :
    Gives (readShape schema item s) (Admits schema n s) := by
  induction s with
  | string => exact gives_text
  | boolean => exact gives_boolean
  | integer range => exact gives_integer range
  | unit expected => exact gives_null expected
  | optional inner ih =>
    intro cs v rest h
    unfold readShape at h
    split at h
    · obtain ⟨_, -, hv⟩ := exists_of_map_eq_ok h
      cases hv
      exact .absent inner
    · exact .present (ih _ _ _ h)
  | list expected inner _ =>
    intro cs v rest h
    unfold readShape at h
    split at h
    · cases h
    · split at h
      · split at h
        · cases h
        · obtain ⟨m, rfl, hread⟩ := hitem _ rfl
          obtain ⟨_, hvalues, hv⟩ := exists_of_map_eq_ok h
          cases hv
          exact .list expected (gives_items (hread inner) _ true _ _ _ hvalues)
      · cases h
  | pair first second _ _ =>
    intro cs v rest h
    unfold readShape at h
    split at h
    · cases h
    · split at h
      · split at h
        · cases h
        · obtain ⟨m, rfl, hread⟩ := hitem _ rfl
          obtain ⟨one, two, rfl, hone, htwo⟩ := gives_pair (hread first) (hread second) _ _ _ h
          exact .pair hone htwo
      · cases h
  | table inner _ =>
    intro cs v rest h
    unfold readShape at h
    split at h
    · cases h
    · split at h
      · split at h
        · cases h
        · obtain ⟨m, rfl, hread⟩ := hitem _ rfl
          obtain ⟨_, hmembers, hv⟩ := exists_of_map_eq_ok h
          cases hv
          exact .table (gives_table (hread inner) _ true _ _ _ hmembers)
      · cases h
  | part name =>
    have hnames := hnames name
    cases hpart : schema name with
    | record r =>
      rw [readShape_record hpart]
      exact gives_record hitem hpart (by rwa [hpart] at hnames)
    | choice variants =>
      rw [readShape_choice hpart]
      exact gives_choice hitem hpart

/-- **A value that is handed on has the form of its shape**, and nests no deeper than containers may be entered. -/
theorem gives_under (hnames : ∀ name, (schema name).names.Nodup) (n : Nat) (s : Shape ν) :
    Gives (readUnder schema n s) (Admits schema n s) := by
  induction n generalizing s with
  | zero => exact gives_shape hnames (fun read h => by cases h) s
  | succ n ih =>
    apply gives_shape hnames
    intro read h
    cases h
    exact ⟨n, rfl, ih⟩

/-- The value of a whole text has the form of its shape. -/
theorem admits_of_read (hnames : ∀ name, (schema name).names.Nodup) {s : Shape ν} {text : String} {v : Json}
    (h : read schema s text = .ok v) : Admits schema depthLimit s v := by
  unfold read at h
  split at h
  · cases h
  · next hread =>
    split at h
    · cases h
      exact gives_under hnames depthLimit s _ _ _ hread
    · cases h

end DataRequests.Json
