import DataRequests.Proofs.JsonReading
import Mathlib.Data.List.Nodup
import Mathlib.Data.List.Perm.Basic

/-!
# Other forms of a value

What a reader hands on has all members of every record in the order of the schema. A text may give it in another form, with the members
in another order and without those that have the value their field has when it is absent (`Abbreviates`). Whatever form a value is
given in, it is read back from any text of the form, as long as the value itself nests no deeper than containers may be entered
(`Abbreviates.reads`). It is the depth of the whole value that counts: a form may be flatter, since an empty list can be left out.
-/

namespace DataRequests.Json

variable {ν : Type}

mutual

/-- The second value is a form of the first at a position of a shape. No document holds integers, pairs or objects with free keys, and
these have no forms here. -/
inductive Abbreviates (schema : Schema ν) : Shape ν → Json → Json → Prop where
  | string (s : String) : Abbreviates schema .string (.string s) (.string s)
  | boolean (b : Bool) : Abbreviates schema .boolean (.boolean b) (.boolean b)
  | absent (inner : Shape ν) : Abbreviates schema (.optional inner) .null .null
  | present {inner : Shape ν} {v w : Json} (h : Abbreviates schema inner v w) (hnull : w ≠ .null) :
      Abbreviates schema (.optional inner) v w
  | list {inner : Shape ν} {values written : List Json} (expected : String)
      (h : AbbreviatesItems schema inner values written) :
      Abbreviates schema (.list expected inner) (.array values) (.array written)
  /-- The members that are kept may stand in any order. -/
  | record {name : ν} {r : Record ν} {members kept written : List (String × Json)} (hpart : schema name = .record r)
      (h : AbbreviatesMembers schema r.fields members kept) (hperm : kept.Perm written) :
      Abbreviates schema (.part name) (.object members) (.object written)
  | bare {name : ν} {variants : List (Variant ν)} {x : Variant ν} (hpart : schema name = .choice variants)
      (hx : x ∈ variants) (hcontent : x.content = .none) :
      Abbreviates schema (.part name) (.string x.name) (.string x.name)
  | content {name : ν} {variants : List (Variant ν)} {x : Variant ν} {inner : Shape ν} {v w : Json}
      (hpart : schema name = .choice variants) (hx : x ∈ variants) (hinner : x.content.inner? = some inner)
      (h : Abbreviates schema inner v w) :
      Abbreviates schema (.part name) (.object [(x.name, v)]) (.object [(x.name, w)])

/-- The items of the second list are forms of those of the first. -/
inductive AbbreviatesItems (schema : Schema ν) : Shape ν → List Json → List Json → Prop where
  | nil (inner : Shape ν) : AbbreviatesItems schema inner [] []
  | cons {inner : Shape ν} {v w : Json} {values written : List Json} (h : Abbreviates schema inner v w)
      (hrest : AbbreviatesItems schema inner values written) :
      AbbreviatesItems schema inner (v :: values) (w :: written)

/-- The members of the second list are forms of members of the first, which has one for each field; members are left out only when
they have the value of an absent member. -/
inductive AbbreviatesMembers (schema : Schema ν) :
    List (Field ν) → List (String × Json) → List (String × Json) → Prop where
  | nil : AbbreviatesMembers schema [] [] []
  | keep {f : Field ν} {fields : List (Field ν)} {v w : Json} {members kept : List (String × Json)}
      (h : Abbreviates schema f.shape v w) (hrest : AbbreviatesMembers schema fields members kept) :
      AbbreviatesMembers schema (f :: fields) ((f.name, v) :: members) ((f.name, w) :: kept)
  | drop {f : Field ν} {fields : List (Field ν)} {v : Json} {members kept : List (String × Json)}
      (h : f.absence.member = some v) (hrest : AbbreviatesMembers schema fields members kept) :
      AbbreviatesMembers schema (f :: fields) ((f.name, v) :: members) kept

end

/-! ## Depth -/

/-- An item is no deeper than the deepest. -/
theorem depth_le_depthOfItems {v : Json} {values : List Json} (h : v ∈ values) : v.depth ≤ depthOfItems values := by
  induction values with
  | nil => cases h
  | cons w rest ih =>
    rw [depthOfItems]
    rcases List.mem_cons.mp h with rfl | h
    · exact Nat.le_max_left _ _
    · exact Nat.le_trans (ih h) (Nat.le_max_right _ _)

/-- The value of a member is no deeper than the deepest. -/
theorem depth_le_depthOfMembers {m : String × Json} {members : List (String × Json)} (h : m ∈ members) :
    m.2.depth ≤ depthOfMembers members := by
  induction members with
  | nil => cases h
  | cons n rest ih =>
    obtain ⟨_, w⟩ := n
    rw [depthOfMembers]
    rcases List.mem_cons.mp h with rfl | h
    · exact Nat.le_max_left _ _
    · exact Nat.le_trans (ih h) (Nat.le_max_right _ _)

/-! ## Forms are read back -/

variable {schema : Schema ν}

/-- The items of a form, one by one. -/
theorem AbbreviatesItems.forall₂ {inner : Shape ν} {values written : List Json} (h : AbbreviatesItems schema inner values written) :
    List.Forall₂ (Abbreviates schema inner) values written := by
  induction values generalizing written with
  | nil =>
    cases h
    exact .nil
  | cons v values ih =>
    cases h with
    | cons hv hrest => exact .cons hv (ih hrest)

/-- The members of a form are forms of some of the members, and a member of which there is none has the value of an absent one. -/
theorem AbbreviatesMembers.exists_read {fields : List (Field ν)} {members kept : List (String × Json)}
    (h : AbbreviatesMembers schema fields members kept) :
    ∃ read : List (String × Json), read.Sublist members ∧
      List.Forall₂ (fun m w => m.1 = w.1 ∧ ∃ f ∈ fields, f.name = w.1 ∧ Abbreviates schema f.shape m.2 w.2) read kept ∧
      List.Forall₂ (fun m f => m.1 = f.name ∧ (m ∈ read ∨ f.absence.member = some m.2)) members fields := by
  induction fields generalizing members kept with
  | nil =>
    cases h
    exact ⟨[], .slnil, .nil, .nil⟩
  | cons f fields ih =>
    -- A member of the other fields keeps what is said of it when one more field comes in front.
    have hmore {read kept : List (String × Json)}
        (h : List.Forall₂ (fun m w => m.1 = w.1 ∧ ∃ g ∈ fields, g.name = w.1 ∧ Abbreviates schema g.shape m.2 w.2) read kept) :
        List.Forall₂ (fun m w => m.1 = w.1 ∧ ∃ g ∈ f :: fields, g.name = w.1 ∧ Abbreviates schema g.shape m.2 w.2) read kept := by
      refine h.imp ?_
      rintro m w ⟨hname, g, hg, hform⟩
      exact ⟨hname, g, List.mem_cons_of_mem _ hg, hform⟩
    cases h with
    | @keep _ _ v w members kept hv hrest =>
      obtain ⟨read, hsub, hread, hfields⟩ := ih hrest
      refine ⟨(f.name, v) :: read, hsub.cons_cons _, .cons ⟨rfl, f, List.mem_cons_self, rfl, hv⟩ (hmore hread),
        .cons ⟨rfl, Or.inl List.mem_cons_self⟩ (hfields.imp ?_)⟩
      rintro m g ⟨hname, hvalue⟩
      exact ⟨hname, hvalue.imp_left (List.mem_cons_of_mem _)⟩
    | @drop _ _ v members kept hv hrest =>
      obtain ⟨read, hsub, hread, hfields⟩ := ih hrest
      exact ⟨read, hsub.cons _, hmore hread, .cons ⟨rfl, Or.inr hv⟩ hfields⟩

/-- The members of a record are found again from those that were read, in whatever order, when the others are absent ones. -/
theorem completeMembers_of_read {fields : List (Field ν)} {read seen members : List (String × Json)}
    (hnodup : (members.map (·.1)).Nodup) (hsub : read.Sublist members) (hperm : read.Perm seen)
    (h : List.Forall₂ (fun m f => m.1 = f.name ∧ (m ∈ read ∨ f.absence.member = some m.2)) members fields) :
    completeMembers seen fields = .ok members := by
  have hseen : (seen.map (·.1)).Nodup := (hperm.map _).nodup_iff.mp (hnodup.sublist (hsub.map _))
  apply completeMembers_eq_ok
  refine ((List.forall₂_and_left members fields).mpr ⟨fun m hm => hm, h⟩).imp ?_
  rintro ⟨_, v⟩ f ⟨hm, rfl, hvalue⟩
  refine ⟨rfl, ?_⟩
  by_cases hread : (f.name, v) ∈ read
  · rw [member?_eq_some hseen (hperm.mem_iff.mp hread)]
    rfl
  · have hnone : member? f.name seen = none := by
      apply member?_eq_none
      intro hname
      obtain ⟨m, hm', hname⟩ := List.mem_map.mp hname
      have hm' : m ∈ read := hperm.mem_iff.mpr hm'
      have heq : m = (f.name, v) := List.inj_on_of_nodup_map hnodup (hsub.subset hm') hm hname
      exact hread (heq ▸ hm')
    rw [hnone, hvalue.resolve_left hread]
    rfl

/-- A form of a record is read back, when the reader of the inner level reads the values of the members back. -/
theorem AbbreviatesMembers.reads {r : Record ν} {members kept written : List (String × Json)}
    (h : AbbreviatesMembers schema r.fields members kept) (hperm : kept.Perm written) (hnames : (r.fields.map (·.name)).Nodup)
    {item : Shape ν → Reader Json}
    (hitem : ∀ m ∈ members, ∀ (s : Shape ν) (w : Json), Abbreviates schema s m.2 w → Reads (item s) m.2 w.tokens) :
    Reads (readRecord (some item) r) (.object members) (Json.object written).tokens := by
  obtain ⟨read, hsub, hread, hfields⟩ := h.exists_read
  have hkeys : (members.map (·.1)).Nodup := by
    have heq : members.map (·.1) = r.fields.map (·.name) := by
      rw [← List.forall₂_eq_eq_eq, List.forall₂_map_left_iff, List.forall₂_map_right_iff]
      exact hfields.imp fun m f h => h.1
    rwa [heq]
  have hcomp : Relation.Comp (List.Forall₂ _) List.Perm read written := ⟨kept, hread, hperm⟩
  rw [List.forall₂_comp_perm_eq_perm_comp_forall₂] at hcomp
  obtain ⟨seen, hseen, hwritten⟩ := hcomp
  have hsub' : ∀ m ∈ seen, m ∈ members := fun m hm => hsub.subset (hseen.mem_iff.mpr hm)
  have hreads := (List.forall₂_and_left seen written).mpr ⟨hsub', hwritten⟩
  have hnodup : (seen.map (·.1)).Nodup := (hseen.map _).nodup_iff.mp (hkeys.sublist (hsub.map _))
  refine reads_record (hreads.imp ?_) hnodup (completeMembers_of_read hkeys hsub hseen hfields)
  rintro m w ⟨hm, hname, f, hf, hfname, hform⟩
  refine ⟨hname, f, ?_, hitem m hm f.shape w.2 hform⟩
  rw [← hfname]
  exact find?_name hnames hf

/-- One level: a form is read back under so many levels, when containers may be entered, if there is a level, and the reader of the
inner level reads the forms of less depth back. -/
theorem Abbreviates.reads_shape (hnames : ∀ name, (schema name).names.Nodup) {item : Option (Shape ν → Reader Json)} {level : Nat}
    (hitem : 0 < level → ∃ read, item = some read ∧
      ∀ (s : Shape ν) (v w : Json), v.depth < level → Abbreviates schema s v w → Reads (read s) v w.tokens)
    {s : Shape ν} {v w : Json} (h : Abbreviates schema s v w) (hdepth : v.depth ≤ level) :
    Reads (readShape schema item s) v w.tokens := by
  induction s generalizing v w with
  | string =>
    cases h with
    | string s => exact reads_text s
  | boolean =>
    cases h with
    | boolean b => exact reads_boolean b
  | integer => cases h
  | unit => cases h
  | pair => cases h
  | table => cases h
  | optional inner ih =>
    cases h with
    | absent => exact reads_absent
    | present h hnull => exact reads_present (ih h hdepth) hnull
  | list expected inner _ =>
    cases h with
    | @list _ values written _ h =>
      rw [depth] at hdepth
      obtain ⟨read, rfl, hread⟩ := hitem (by omega)
      have hvalues : ∀ v ∈ values, v.depth < level := by
        intro v hv
        have := depth_le_depthOfItems hv
        omega
      have hitems := (List.forall₂_and_left values written).mpr ⟨hvalues, h.forall₂⟩
      exact reads_array (hitems.imp fun v w h => hread inner v w h.1 h.2) expected
  | part name =>
    have hnames := hnames name
    cases h with
    | @record _ r members kept written hpart h hperm =>
      rw [depth] at hdepth
      obtain ⟨read, rfl, hread⟩ := hitem (by omega)
      rw [readShape_record hpart]
      refine h.reads hperm (by rwa [hpart] at hnames) ?_
      intro m hm s w hform
      have := depth_le_depthOfMembers hm
      exact hread s m.2 w (by omega) hform
    | @bare _ variants x hpart hx hcontent =>
      rw [readShape_choice hpart]
      exact reads_bare (find?_name (by rwa [hpart] at hnames) hx) hcontent
    | @content _ variants x inner v w hpart hx hinner h =>
      simp only [depth, depthOfMembers] at hdepth
      obtain ⟨read, rfl, hread⟩ := hitem (by omega)
      rw [readShape_choice hpart]
      exact reads_content (find?_name (by rwa [hpart] at hnames) hx) hinner (hread inner v w (by omega) h)

/-- **Forms are read back.** -/
theorem Abbreviates.reads (hnames : ∀ name, (schema name).names.Nodup) (level : Nat) {s : Shape ν} {v w : Json}
    (h : Abbreviates schema s v w) (hdepth : v.depth ≤ level) : Reads (readUnder schema level s) v w.tokens := by
  induction level generalizing s v w with
  | zero => exact h.reads_shape hnames (fun h => absurd h (Nat.lt_irrefl 0)) hdepth
  | succ level ih =>
    refine h.reads_shape hnames (fun _ => ⟨_, rfl, ?_⟩) hdepth
    intro s v w hlt h
    exact ih h (Nat.le_of_lt_succ hlt)

/-- A whole text of a form is read as the value. -/
theorem Abbreviates.read_eq_ok (hnames : ∀ name, (schema name).names.Nodup) {s : Shape ν} {v w : Json}
    (h : Abbreviates schema s v w) (hdepth : v.depth ≤ depthLimit) {text : String} (htext : IsTextOf text w) :
    read schema s text = .ok v := by
  obtain ⟨rest, hread, hrest⟩ := h.reads hnames depthLimit hdepth [] text.toList (by rwa [List.append_nil])
  have hblank : skipBlanks rest = [] := by
    cases hrest with
    | nil hblanks => simpa [skipBlanks] using hblanks.skipBlanks []
  simp only [read, hread, hblank]

end DataRequests.Json
