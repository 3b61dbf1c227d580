import DataRequests.Declaration.Reader
import DataRequests.Declaration.Written
import DataRequests.Proofs.Abbreviation
import DataRequests.Proofs.Admission

/-!
# The parts of a document, written and read

For each part of a document, its written form and what takes a written form apart fit each other (`Faithful`): writing loses nothing,
the written form is a form of itself, and whatever is handed on where the part stands is the written form of something and nests no
deeper than the levels that are free there.

The last holds only where the lists that are written for absent members have a level. A type takes one level for its object and one for
its list of arguments, so it stands where an even number of levels is free, and where it could be entered there is room for
an empty list.
-/

namespace DataRequests

open Json (Admits AdmitsMembers AdmitsVariant Abbreviates AbbreviatesItems AbbreviatesMembers)

/-- No part of a document has a field or a variant twice. -/
theorem declarationSchema_names_nodup (part : DeclarationPart) : (declarationSchema part).names.Nodup := by
  cases part <;> decide

/-! ## What is asked of a part -/

/-- Whatever is handed on for a part with so many levels free is the written form of something, and has room. -/
def Covers {α : Type} (part : DeclarationPart) (write : α → Json) (n : Nat) : Prop :=
  ∀ v, Admits declarationSchema n (.part part) v → ∃ a, v = write a ∧ v.depth ≤ n

/-- The written form of a part and what takes it apart fit each other. -/
structure Faithful {α : Type} (part : DeclarationPart) (room : Nat → Prop) (write : α → Json) (read : Json → α) : Prop where
  /-- A written form is taken apart again. -/
  read_write : ∀ a, read (write a) = a
  /-- A written form is a form of itself. -/
  form : ∀ a, Abbreviates declarationSchema (.part part) (write a) (write a)
  /-- What is handed on is a written form. -/
  covers : ∀ n, room n → Covers part write n

/-- Room that every part has that can be entered at all. -/
def anywhere (_ : Nat) : Prop :=
  True

/-! ## Texts that may be absent -/

/-- A text that may be absent is taken from what is written for it. -/
@[simp] theorem optionalTextOf_optionalText (o : Option String) : optionalTextOf (optionalText o) = o := by
  cases o <;> rfl

/-- No container is written for it. -/
@[simp] theorem depth_optionalText (o : Option String) : (optionalText o).depth = 0 := by
  cases o <;> rfl

/-- What is written for it is a form of itself. -/
theorem form_optionalText (o : Option String) :
    Abbreviates declarationSchema (.optional .string) (optionalText o) (optionalText o) := by
  cases o with
  | none => exact .absent .string
  | some s => exact .present (.string s) nofun

/-! ## Parts that may be absent, and lists of parts -/

section Containers

variable {α : Type} {part : DeclarationPart} {room : Nat → Prop} {write : α → Json} {read : Json → α} {n : Nat}

/-- A part is not `null`. -/
theorem Faithful.write_ne_null (h : Faithful part room write read) (a : α) : write a ≠ .null := by
  have hform := h.form a
  intro hnull
  rw [hnull] at hform
  cases hform

/-- A part that may be absent is taken apart again. -/
theorem Faithful.read_option (h : Faithful part room write read) (o : Option α) : (Json.ofOption write o).option read = o := by
  cases o with
  | none => rfl
  | some a =>
    have hread := h.read_write a
    rw [Json.ofOption]
    unfold Json.option
    split
    · next hnull => exact absurd hnull (h.write_ne_null a)
    · rw [hread]

/-- What is written for a part that may be absent is a form of itself. -/
theorem Faithful.form_option (h : Faithful part room write read) (o : Option α) :
    Abbreviates declarationSchema (.optional (.part part)) (Json.ofOption write o) (Json.ofOption write o) := by
  cases o with
  | none => exact .absent _
  | some a => exact .present (h.form a) (h.write_ne_null a)

/-- The parts of a list are taken apart again. -/
theorem Faithful.read_list (h : Faithful part room write read) (l : List α) : (Json.ofList write l).items.map read = l := by
  rw [Json.ofList, Json.items, List.map_map]
  exact List.map_id'' h.read_write l

/-- The items of a list are forms of themselves when each is. -/
theorem abbreviatesItems_map {s : Json.Shape DeclarationPart} {l : List α}
    (h : ∀ a ∈ l, Abbreviates declarationSchema s (write a) (write a)) :
    AbbreviatesItems declarationSchema s (l.map write) (l.map write) := by
  induction l with
  | nil => exact .nil s
  | cons a l ih => exact .cons (h a List.mem_cons_self) (ih fun b hb => h b (List.mem_cons_of_mem a hb))

/-- What is written for a list of parts is a form of itself. -/
theorem Faithful.form_list (h : Faithful part room write read) (expected : String) (l : List α) :
    Abbreviates declarationSchema (.list expected (.part part)) (Json.ofList write l) (Json.ofList write l) :=
  .list expected (abbreviatesItems_map fun a _ => h.form a)

/-- A list that is handed on is the written form of a list, when each item is a written form. -/
theorem Covers.exists_list {expected : String} (h : ∀ m, n = m + 1 → Covers part write m) {v : Json}
    (hv : Admits declarationSchema n (.list expected (.part part)) v) :
    ∃ l : List α, v = Json.ofList write l ∧ v.depth ≤ n := by
  cases hv with
  | @list m _ values _ hvalues =>
    have hitems : ∃ l : List α, values = l.map write ∧ Json.depthOfItems values ≤ m := by
      clear expected
      induction values with
      | nil => exact ⟨[], rfl, Nat.zero_le m⟩
      | cons v values ih =>
        obtain ⟨a, rfl, ha⟩ := h m rfl v (hvalues v List.mem_cons_self)
        obtain ⟨l, rfl, hl⟩ := ih fun w hw => hvalues w (List.mem_cons_of_mem _ hw)
        exact ⟨a :: l, rfl, Nat.max_le.mpr ⟨ha, hl⟩⟩
    obtain ⟨l, rfl, hdepth⟩ := hitems
    exact ⟨l, rfl, Nat.succ_le_succ hdepth⟩

end Containers

/-! ## Members of a record, by the kind of field -/

section Members

variable {α : Type} {part : DeclarationPart} {write : α → Json} {name : String} {n : Nat}
  {fields : List (Json.Field DeclarationPart)} {members : List (String × Json)}

/-- What is handed on for a text is a text. -/
theorem exists_textMember (h : AdmitsMembers declarationSchema n (DeclarationPart.textField name :: fields) members) :
    ∃ s rest, members = (name, .string s) :: rest ∧ AdmitsMembers declarationSchema n fields rest := by
  obtain ⟨v, rest, hmembers, hv, hrest⟩ := h.exists_cons
  rcases hv with hv | hv
  · cases hv
    exact ⟨_, rest, hmembers, hrest⟩
  · cases hv

/-- What is handed on for a text that may be absent is one, or `null`. -/
theorem exists_optionalMember (h : AdmitsMembers declarationSchema n (DeclarationPart.optionalField name :: fields) members) :
    ∃ o rest, members = (name, optionalText o) :: rest ∧ AdmitsMembers declarationSchema n fields rest := by
  obtain ⟨v, rest, hmembers, hv, hrest⟩ := h.exists_cons
  rcases hv with hv | hv
  · cases hv with
    | absent => exact ⟨none, rest, hmembers, hrest⟩
    | present hv =>
      cases hv with
      | string s => exact ⟨some s, rest, hmembers, hrest⟩
  · cases hv
    exact ⟨none, rest, hmembers, hrest⟩

/-- What is handed on for a flag is a boolean. -/
theorem exists_flagMember (h : AdmitsMembers declarationSchema n (DeclarationPart.flagField name :: fields) members) :
    ∃ b rest, members = (name, .boolean b) :: rest ∧ AdmitsMembers declarationSchema n fields rest := by
  obtain ⟨v, rest, hmembers, hv, hrest⟩ := h.exists_cons
  rcases hv with hv | hv
  · cases hv
    exact ⟨_, rest, hmembers, hrest⟩
  · cases hv
    exact ⟨false, rest, hmembers, hrest⟩

/-- What is handed on for a part is the written form of one. -/
theorem exists_partMember (h : AdmitsMembers declarationSchema n (⟨name, .part part, .missing⟩ :: fields) members)
    (hpart : Covers part write n) :
    ∃ a rest, members = (name, write a) :: rest ∧ (write a).depth ≤ n ∧ AdmitsMembers declarationSchema n fields rest := by
  obtain ⟨v, rest, hmembers, hv, hrest⟩ := h.exists_cons
  rcases hv with hv | hv
  · obtain ⟨a, rfl, ha⟩ := hpart v hv
    exact ⟨a, rest, hmembers, ha, hrest⟩
  · cases hv

/-- What is handed on for a part that may be absent is the written form of one, or `null`. -/
theorem exists_optionalPart (h : AdmitsMembers declarationSchema n (DeclarationPart.optionalPart name part :: fields) members)
    (hpart : Covers part write n) :
    ∃ o rest, members = (name, Json.ofOption write o) :: rest ∧ (Json.ofOption write o).depth ≤ n ∧
      AdmitsMembers declarationSchema n fields rest := by
  obtain ⟨v, rest, hmembers, hv, hrest⟩ := h.exists_cons
  rcases hv with hv | hv
  · cases hv with
    | absent => exact ⟨none, rest, hmembers, Nat.zero_le n, hrest⟩
    | present hv =>
      obtain ⟨a, rfl, ha⟩ := hpart v hv
      exact ⟨some a, rest, hmembers, ha, hrest⟩
  · cases hv
    exact ⟨none, rest, hmembers, Nat.zero_le n, hrest⟩

/-- The list that stands for an absent member takes a level of its own. -/
theorem exists_listMember (h : AdmitsMembers declarationSchema n (DeclarationPart.listField name part :: fields) members)
    (hpart : ∀ m, n = m + 1 → Covers part write m) (hn : 0 < n) :
    ∃ l rest, members = (name, Json.ofList write l) :: rest ∧ (Json.ofList write l).depth ≤ n ∧
      AdmitsMembers declarationSchema n fields rest := by
  obtain ⟨v, rest, hmembers, hv, hrest⟩ := h.exists_cons
  rcases hv with hv | hv
  · obtain ⟨l, rfl, hl⟩ := Covers.exists_list hpart hv
    exact ⟨l, rest, hmembers, hl, hrest⟩
  · cases hv
    exact ⟨[], rest, hmembers, hn, hrest⟩

end Members

/-- The content of a variant stands one level deeper than the variant. -/
theorem depth_content_le {name : String} {w : Json} {n : Nat} (h : w.depth ≤ n) : (Json.object [(name, w)]).depth ≤ n + 1 := by
  simpa [Json.depth, Json.depthOfMembers] using h

/-- What is handed on for a variant with content has a written form as its content. -/
theorem Faithful.exists_content {α : Type} {part : DeclarationPart} {write : α → Json} {read : Json → α} {n : Nat} {v : Json}
    {x : Json.Variant DeclarationPart} (hpart : Faithful part anywhere write read) (h : AdmitsVariant declarationSchema n v x)
    (hinner : x.content.inner? = some (.part part)) : ∃ a, v = .object [(x.name, write a)] ∧ v.depth ≤ n := by
  rw [AdmitsVariant, hinner] at h
  obtain ⟨m, w, rfl, rfl, hw⟩ := h
  obtain ⟨a, rfl, ha⟩ := hpart.covers m trivial w hw
  exact ⟨a, rfl, depth_content_le ha⟩

/-! ## Records of texts and flags

Their members have no depth of their own, so these records fit wherever they could be entered. They differ in the names and the kinds of
their fields only.
-/

/-- A field that holds a text, a text that may be absent, or a flag. -/
inductive ScalarField where
  | text (name : String)
  | optional (name : String)
  | flag (name : String)

namespace ScalarField

/-- The name of the field. -/
def name : ScalarField → String
  | text name | optional name | flag name => name

/-- The field in the schema. -/
def field : ScalarField → Json.Field DeclarationPart
  | text name => DeclarationPart.textField name
  | optional name => DeclarationPart.optionalField name
  | flag name => DeclarationPart.flagField name

/-- What is written for the field when a value is read for it. -/
def rewritten : ScalarField → Json → Json
  | text _, v => .string v.text
  | optional _, v => optionalText (optionalTextOf v)
  | flag _, v => .boolean v.isTrue

/-- The member that is written when the field is read from an object. -/
def member (j : Json) (f : ScalarField) : String × Json :=
  (f.name, f.rewritten (j.field f.name))

variable {f : ScalarField} {fields : List ScalarField} {n : Nat} {members : List (String × Json)}

theorem name_field (f : ScalarField) : f.field.name = f.name := by
  cases f <;> rfl

/-- No container is written for the field. -/
theorem depth_rewritten (f : ScalarField) (v : Json) : (f.rewritten v).depth = 0 := by
  cases f with
  | text => rfl
  | optional => exact depth_optionalText _
  | flag => rfl

theorem depthOfMembers_map (j : Json) (fields : List ScalarField) : Json.depthOfMembers (fields.map (member j)) = 0 := by
  induction fields with
  | nil => rfl
  | cons f fields ih => rw [List.map_cons, member, Json.depthOfMembers, depth_rewritten, ih, Nat.max_self]

/-- What is written for fields is a form of itself. -/
theorem form_map (j : Json) (fields : List ScalarField) :
    AbbreviatesMembers declarationSchema (fields.map field) (fields.map (member j)) (fields.map (member j)) := by
  induction fields with
  | nil => exact .nil
  | cons f fields ih =>
    cases f with
    | text => exact .keep (.string _) ih
    | optional => exact .keep (form_optionalText _) ih
    | flag => exact .keep (.boolean _) ih

/-- A member under another name plays no role for the field. -/
theorem member_cons {first : String × Json} (h : first.1 ≠ f.name) :
    f.member (.object (first :: members)) = f.member (.object members) := by
  have hfield : (Json.object (first :: members)).field f.name = (Json.object members).field f.name := by
    simp [Json.field, Json.members, Json.member?, h]
  rw [member, member, hfield]

/-- What is handed on for the field is what is written when it is read. -/
theorem exists_member (h : AdmitsMembers declarationSchema n (f.field :: fields.map field) members) :
    ∃ rest, members = f.member (.object members) :: rest ∧ AdmitsMembers declarationSchema n (fields.map field) rest := by
  cases f with
  | text name =>
    obtain ⟨s, rest, rfl, hrest⟩ := exists_textMember h
    exact ⟨rest, by simp [member, rewritten, ScalarField.name, Json.field, Json.members, Json.member?, Json.text], hrest⟩
  | optional name =>
    obtain ⟨o, rest, rfl, hrest⟩ := exists_optionalMember h
    exact ⟨rest, by simp [member, rewritten, ScalarField.name, Json.field, Json.members, Json.member?], hrest⟩
  | flag name =>
    obtain ⟨b, rest, rfl, hrest⟩ := exists_flagMember h
    exact ⟨rest, by simp [member, rewritten, ScalarField.name, Json.field, Json.members, Json.member?, Json.isTrue], hrest⟩

/-- What is handed on for fields with distinct names is what is written when they are read. -/
theorem eq_map_member (hnames : (fields.map name).Nodup) (h : AdmitsMembers declarationSchema n (fields.map field) members) :
    members = fields.map (member (.object members)) := by
  induction fields generalizing members with
  | nil =>
    cases h
    rfl
  | cons f fields ih =>
    obtain ⟨hname, hnames⟩ := List.nodup_cons.mp hnames
    obtain ⟨rest, hmembers, hrest⟩ := exists_member h
    have hother : ∀ g ∈ fields, g.member (.object members) = g.member (.object rest) := by
      intro g hg
      rw [hmembers]
      exact member_cons fun heq => hname (List.mem_map.mpr ⟨g, hg, heq.symm⟩)
    rw [List.map_cons, List.map_congr_left hother, ← ih hnames hrest]
    exact hmembers

end ScalarField

/-- A record of such fields, when it is written as they are, each read under its name. -/
theorem faithful_scalars {α : Type} {part : DeclarationPart} {r : Json.Record DeclarationPart} {write : α → Json} {read : Json → α}
    (fields : List ScalarField) (hpart : declarationSchema part = .record r) (hfields : r.fields = fields.map ScalarField.field)
    (hread : ∀ a, read (write a) = a) (hwrite : ∀ j, write (read j) = .object (fields.map (ScalarField.member j))) :
    Faithful part anywhere write read where
  read_write := hread
  form a := by
    rw [← hread a, hwrite]
    exact .record hpart (hfields ▸ ScalarField.form_map _ fields) (.refl _)
  covers n _ v hv := by
    have hnames : (fields.map ScalarField.name).Nodup := by
      have hall := declarationSchema_names_nodup part
      rw [hpart, Json.Part.names, hfields, List.map_map] at hall
      rwa [List.map_congr_left fun f _ => (ScalarField.name_field f).symm]
    obtain ⟨m, members, rfl, rfl, hmembers⟩ := hv.exists_members hpart
    rw [hfields] at hmembers
    have hsame := ScalarField.eq_map_member hnames hmembers
    refine ⟨read (.object members), by rw [hwrite, ← hsame], ?_⟩
    rw [Json.depth, hsame, ScalarField.depthOfMembers_map]
    exact Nat.succ_le_succ (Nat.zero_le m)

/-- A record with one text. -/
theorem faithful_textRecord {part : DeclarationPart} {r : Json.Record DeclarationPart} {name : String}
    (hpart : declarationSchema part = .record r) (hfields : r.fields = [DeclarationPart.textField name]) :
    Faithful part anywhere (fun s => .object [(name, .string s)]) (fun j => (j.field name).text) :=
  faithful_scalars [.text name] hpart hfields (fun s => by simp [Json.field, Json.members, Json.member?, Json.text]) fun _ => rfl

theorem Defaults.faithful : Faithful .defaults anywhere Defaults.toJson Defaults.ofJson :=
  faithful_scalars [.optional "response-transform", .optional "error-transform", .optional "refresh-strategy"] rfl rfl
    (fun a => by simp [Defaults.ofJson, Defaults.toJson, Json.field, Json.members, Json.member?]) fun _ => rfl

theorem NetworkDefaults.faithful : Faithful .networkDefaults anywhere NetworkDefaults.toJson NetworkDefaults.ofJson :=
  faithful_scalars [.optional "response-transform", .optional "error-transform"] rfl rfl
    (fun a => by simp [NetworkDefaults.ofJson, NetworkDefaults.toJson, Json.field, Json.members, Json.member?]) fun _ => rfl

theorem NetworkMarker.faithful : Faithful .network anywhere NetworkMarker.toJson NetworkMarker.ofJson :=
  faithful_scalars
    [.optional "response-transform", .optional "error-transform", .optional "refresh-strategy", .optional "call-return-type"] rfl rfl
    (fun a => by simp [NetworkMarker.ofJson, NetworkMarker.toJson, Json.field, Json.members, Json.member?]) fun _ => rfl

theorem DatabaseMarker.faithful : Faithful .database anywhere DatabaseMarker.toJson DatabaseMarker.ofJson :=
  faithful_scalars [.optional "refresh-strategy", .flag "is-async"] rfl rfl
    (fun a => by simp [DatabaseMarker.ofJson, DatabaseMarker.toJson, Json.field, Json.members, Json.member?, Json.isTrue]) fun _ => rfl

theorem MemoryMarker.faithful : Faithful .memory anywhere MemoryMarker.toJson MemoryMarker.ofJson :=
  faithful_scalars [.optional "refresh-strategy"] rfl rfl
    (fun a => by simp [MemoryMarker.ofJson, MemoryMarker.toJson, Json.field, Json.members, Json.member?]) fun _ => rfl

theorem KeyValueStoreMarker.faithful : Faithful .keyValueStore anywhere KeyValueStoreMarker.toJson KeyValueStoreMarker.ofJson :=
  faithful_scalars [.optional "delegate", .optional "refresh-strategy"] rfl rfl
    (fun a => by simp [KeyValueStoreMarker.ofJson, KeyValueStoreMarker.toJson, Json.field, Json.members, Json.member?]) fun _ => rfl

theorem Transport.faithful : Faithful .transport anywhere Transport.toJson Transport.ofJson :=
  faithful_scalars [.text "verb", .text "path"] rfl rfl
    (fun a => by simp [Transport.ofJson, Transport.toJson, Json.field, Json.members, Json.member?, Json.text]) fun _ => rfl

theorem ControllerMarker.faithful : Faithful .controller anywhere ControllerMarker.toJson ControllerMarker.ofJson :=
  faithful_scalars [.flag "in-constructor", .flag "optional"] rfl rfl
    (fun a => by simp [ControllerMarker.ofJson, ControllerMarker.toJson, Json.field, Json.members, Json.member?, Json.isTrue]) fun _ => rfl

/-! ## Kinds of source, tags and capabilities -/

/-- A kind of source is written as its name. -/
theorem SourceKind.faithful : Faithful .sourceKind anywhere SourceKind.toJson SourceKind.ofJson where
  read_write k := by cases k <;> rfl
  form k := by
    have hk : ⟨k.name, .none⟩ ∈ DeclarationPart.kindVariants := List.mem_map.mpr ⟨k, by cases k <;> decide, rfl⟩
    exact .bare rfl hk rfl
  covers n _ v hv := by
    obtain ⟨x, hx, h⟩ := hv.exists_variant rfl
    obtain ⟨k, -, rfl⟩ := List.mem_map.mp hx
    cases h
    exact ⟨k, rfl, Nat.zero_le n⟩

/-- The fields of a payload hold a kind of source. -/
theorem faithful_payload :
    Faithful .payload anywhere (fun k => .object [("source", SourceKind.toJson k)]) (fun j => .ofJson (j.field "source")) where
  read_write := SourceKind.faithful.read_write
  form k := .record rfl (.keep (SourceKind.faithful.form k) .nil) (.refl _)
  covers n _ v hv := by
    obtain ⟨m, _, rfl, rfl, h₀⟩ := hv.exists_members rfl
    obtain ⟨k, _, rfl, hk, h₁⟩ := exists_partMember h₀ (SourceKind.faithful.covers m trivial)
    cases h₁
    exact ⟨k, rfl, depth_content_le hk⟩

/-- Those of source parameters may hold one. -/
theorem faithful_sourceParams :
    Faithful .sourceParams anywhere (fun payload => .object [("payload", Json.ofOption SourceKind.toJson payload)])
      (fun j => (j.field "payload").option SourceKind.ofJson) where
  read_write := SourceKind.faithful.read_option
  form payload := .record rfl (.keep (SourceKind.faithful.form_option payload) .nil) (.refl _)
  covers n _ v hv := by
    obtain ⟨m, _, rfl, rfl, h₀⟩ := hv.exists_members rfl
    obtain ⟨payload, _, rfl, hpayload, h₁⟩ := exists_optionalPart h₀ (SourceKind.faithful.covers m trivial)
    cases h₁
    exact ⟨payload, rfl, depth_content_le hpayload⟩

/-- Those of a new name hold a text. -/
theorem faithful_rename : Faithful .rename anywhere (fun s => .object [("name", .string s)]) (fun j => (j.field "name").text) :=
  faithful_textRecord rfl rfl

/-- A tag is written as the name of its variant with its fields. -/
theorem ParameterTag.faithful : Faithful .tag anywhere ParameterTag.toJson ParameterTag.ofJson where
  read_write t := by
    cases t with
    | rename name => rfl
    | payload source => exact congrArg ParameterTag.payload (SourceKind.faithful.read_write source)
  form t := by
    cases t with
    | rename name => exact .content (x := ⟨"rename", .fields .rename⟩) rfl (by simp) rfl (faithful_rename.form name)
    | payload source => exact .content (x := ⟨"payload", .fields .payload⟩) rfl (by simp) rfl (faithful_payload.form source)
  covers n _ v hv := by
    obtain ⟨x, hx, h⟩ := hv.exists_variant rfl
    simp only [List.mem_cons, List.not_mem_nil, or_false] at hx
    rcases hx with rfl | rfl
    · obtain ⟨name, hv, hdepth⟩ := faithful_rename.exists_content h rfl
      exact ⟨.rename name, hv, hdepth⟩
    · obtain ⟨source, hv, hdepth⟩ := faithful_payload.exists_content h rfl
      exact ⟨.payload source, hv, hdepth⟩

/-- A capability is written as the name of its variant, with fields where it has any. -/
theorem Capability.faithful : Faithful .capability anywhere Capability.toJson Capability.ofJson where
  read_write c := by
    cases c with
    | sourceParams payload => exact congrArg Capability.sourceParams (SourceKind.faithful.read_option payload)
    | _ => rfl
  form c := by
    cases c with
    | request => exact .bare (x := ⟨"request", .none⟩) rfl (by simp) rfl
    | call => exact .bare (x := ⟨"call", .none⟩) rfl (by simp) rfl
    | controller => exact .bare (x := ⟨"controller", .none⟩) rfl (by simp) rfl
    | sourceParams payload =>
      exact .content (x := ⟨"source-params", .fields .sourceParams⟩) rfl (by simp) rfl (faithful_sourceParams.form payload)
    | callback => exact .bare (x := ⟨"callback", .none⟩) rfl (by simp) rfl
    | errorFilter => exact .bare (x := ⟨"error-filter", .none⟩) rfl (by simp) rfl
    | list => exact .bare (x := ⟨"list", .none⟩) rfl (by simp) rfl
  covers n _ v hv := by
    obtain ⟨x, hx, h⟩ := hv.exists_variant rfl
    simp only [List.mem_cons, List.not_mem_nil, or_false] at hx
    rcases hx with rfl | rfl | rfl | rfl | rfl | rfl | rfl
    · exact ⟨.request, h, h ▸ Nat.zero_le n⟩
    · exact ⟨.call, h, h ▸ Nat.zero_le n⟩
    · exact ⟨.controller, h, h ▸ Nat.zero_le n⟩
    · obtain ⟨payload, hv, hdepth⟩ := faithful_sourceParams.exists_content h rfl
      exact ⟨.sourceParams payload, hv, hdepth⟩
    · exact ⟨.callback, h, h ▸ Nat.zero_le n⟩
    · exact ⟨.errorFilter, h, h ▸ Nat.zero_le n⟩
    · exact ⟨.list, h, h ▸ Nat.zero_le n⟩

/-! ## Types -/

/-- Types are written one by one. -/
theorem TypeExpr.toJsonItems_eq (ts : List TypeExpr) : TypeExpr.toJsonItems ts = ts.map TypeExpr.toJson := by
  induction ts with
  | nil => rfl
  | cons t ts ih => rw [TypeExpr.toJsonItems, ih, List.map_cons]

/-- A type is written as its name and two lists. -/
theorem TypeExpr.toJson_eq (name : String) (args : List TypeExpr) (capabilities : List Capability) :
    (TypeExpr.mk name args capabilities).toJson =
      .object
        [("name", .string name),
         ("args", Json.ofList TypeExpr.toJson args),
         ("capabilities", Json.ofList Capability.toJson capabilities)] := by
  rw [TypeExpr.toJson, TypeExpr.toJsonItems_eq]
  rfl

mutual

/-- A type is taken apart again, by induction over it and the list of its arguments. -/
theorem TypeExpr.ofJson_toJson : ∀ t : TypeExpr, TypeExpr.ofJson t.toJson = t
  | ⟨name, args, capabilities⟩ => by
    rw [TypeExpr.toJson, TypeExpr.ofJson, TypeExpr.ofJsonItems_toJsonItems args, Capability.faithful.read_list]
    rfl

theorem TypeExpr.ofJsonItems_toJsonItems : ∀ ts : List TypeExpr, TypeExpr.ofJsonItems (TypeExpr.toJsonItems ts) = ts
  | [] => rfl
  | t :: ts => by
    rw [TypeExpr.toJsonItems, TypeExpr.ofJsonItems, TypeExpr.ofJson_toJson t, TypeExpr.ofJsonItems_toJsonItems ts]

end

mutual

/-- What is written for a type is a form of itself, by the same induction. -/
theorem TypeExpr.abbreviates_toJson : ∀ t : TypeExpr, Abbreviates declarationSchema (.part .type) t.toJson t.toJson
  | ⟨name, args, capabilities⟩ => by
    have hargs := TypeExpr.abbreviates_toJsonItems args
    have hcapabilities := Capability.faithful.form_list "a sequence" capabilities
    rw [TypeExpr.toJson]
    exact .record rfl (.keep (.string name) (.keep (.list "a sequence" hargs) (.keep hcapabilities .nil))) (.refl _)

theorem TypeExpr.abbreviates_toJsonItems : ∀ ts : List TypeExpr,
    AbbreviatesItems declarationSchema (.part .type) (TypeExpr.toJsonItems ts) (TypeExpr.toJsonItems ts)
  | [] => .nil _
  | t :: ts => .cons (TypeExpr.abbreviates_toJson t) (TypeExpr.abbreviates_toJsonItems ts)

end

/-- The written form of a type takes a level. -/
theorem TypeExpr.depth_pos (t : TypeExpr) : 0 < t.toJson.depth := by
  cases t
  rw [TypeExpr.toJson_eq, Json.depth]
  exact Nat.succ_pos _

/-- Types stand where an even number of levels is free: each takes one for its object and one for the list of its arguments. -/
theorem TypeExpr.covers (k : Nat) : Covers .type TypeExpr.toJson (2 * k) := by
  induction k with
  | zero =>
    intro v hv
    obtain ⟨m, _, hm, -⟩ := hv.exists_members rfl
    cases hm
  | succ k ih =>
    intro v hv
    obtain ⟨m, _, hm, rfl, h₀⟩ := hv.exists_members rfl
    obtain rfl : m = 2 * k + 1 := by omega
    -- One level is left for the lists of the type even when nothing was written for them.
    obtain ⟨name, _, rfl, h₁⟩ := exists_textMember h₀
    have hinner (l : Nat) (hl : 2 * k + 1 = l + 1) : Covers .type TypeExpr.toJson l := by
      cases hl
      exact ih
    obtain ⟨args, _, rfl, hargs, h₂⟩ := exists_listMember h₁ hinner (Nat.succ_pos _)
    obtain ⟨capabilities, _, rfl, hcapabilities, h₃⟩ :=
      exists_listMember h₂ (fun l _ => Capability.faithful.covers l trivial) (Nat.succ_pos _)
    cases h₃
    refine ⟨⟨name, args, capabilities⟩, (TypeExpr.toJson_eq ..).symm, ?_⟩
    simp only [Json.depth, Json.depthOfMembers]
    omega

/-- Written types are taken apart again, and stand where an even number of levels is free. -/
theorem TypeExpr.faithful : Faithful .type (· % 2 = 0) TypeExpr.toJson TypeExpr.ofJson where
  read_write := TypeExpr.ofJson_toJson
  form := TypeExpr.abbreviates_toJson
  covers n hn := by
    have heven : 2 * (n / 2) = n := by omega
    exact heven ▸ TypeExpr.covers (n / 2)

/-! ## Markers -/

/-- The fields of a reuse hold a text. -/
theorem faithful_reuse : Faithful .reuse anywhere (fun s => .object [("method", .string s)]) (fun j => (j.field "method").text) :=
  faithful_textRecord rfl rfl

/-- So do those of a provider. -/
theorem faithful_paramsProvider :
    Faithful .paramsProvider anywhere (fun s => .object [("target", .string s)]) (fun j => (j.field "target").text) :=
  faithful_textRecord rfl rfl

/-- So do those of a forwarded marker. -/
theorem faithful_forward : Faithful .forward anywhere (fun s => .object [("name", .string s)]) (fun j => (j.field "name").text) :=
  faithful_textRecord rfl rfl

/-- A marker is taken apart again, as its content is. -/
theorem Marker.ofJson_toJson (a : Marker) : Marker.ofJson a.toJson = a := by
  cases a with
  | network content => exact congrArg Marker.network (NetworkMarker.faithful.read_write content)
  | transport binding => exact congrArg Marker.transport (Transport.faithful.read_write binding)
  | database content => exact congrArg Marker.database (DatabaseMarker.faithful.read_write content)
  | memory content => exact congrArg Marker.memory (MemoryMarker.faithful.read_write content)
  | keyValueStore content => exact congrArg Marker.keyValueStore (KeyValueStoreMarker.faithful.read_write content)
  | controllerReference marker => exact congrArg Marker.controllerReference (ControllerMarker.faithful.read_write marker)
  | _ => rfl

/-- What is written for a marker is a form of itself. -/
theorem Marker.abbreviates_toJson (a : Marker) : Abbreviates declarationSchema (.part .marker) a.toJson a.toJson := by
  cases a with
  | network content =>
    exact .content (x := ⟨"network", .value (.part .network)⟩) rfl (by simp) rfl (NetworkMarker.faithful.form content)
  | transport binding =>
    exact .content (x := ⟨"transport", .fields .transport⟩) rfl (by simp) rfl (Transport.faithful.form binding)
  | database content =>
    exact .content (x := ⟨"database", .value (.part .database)⟩) rfl (by simp) rfl (DatabaseMarker.faithful.form content)
  | memory content =>
    exact .content (x := ⟨"memory", .value (.part .memory)⟩) rfl (by simp) rfl (MemoryMarker.faithful.form content)
  | keyValueStore content =>
    exact .content (x := ⟨"key-value-store", .value (.part .keyValueStore)⟩) rfl (by simp) rfl
      (KeyValueStoreMarker.faithful.form content)
  | reuse method => exact .content (x := ⟨"reuse", .fields .reuse⟩) rfl (by simp) rfl (faithful_reuse.form method)
  | targets => exact .bare (x := ⟨"targets", .none⟩) rfl (by simp) rfl
  | controllerReference marker =>
    exact .content (x := ⟨"controller-reference", .fields .controller⟩) rfl (by simp) rfl (ControllerMarker.faithful.form marker)
  | paramsProvider target =>
    exact .content (x := ⟨"params-provider", .fields .paramsProvider⟩) rfl (by simp) rfl (faithful_paramsProvider.form target)
  | cancelPrevious => exact .bare (x := ⟨"cancel-previous", .none⟩) rfl (by simp) rfl
  | forward name => exact .content (x := ⟨"forward", .fields .forward⟩) rfl (by simp) rfl (faithful_forward.form name)

/-- What is handed on for a marker is the written form of one. -/
theorem Marker.covers (n : Nat) : Covers .marker Marker.toJson n := by
  intro v hv
  obtain ⟨x, hx, h⟩ := hv.exists_variant rfl
  simp only [List.mem_cons, List.not_mem_nil, or_false] at hx
  rcases hx with rfl | rfl | rfl | rfl | rfl | rfl | rfl | rfl | rfl | rfl | rfl
  · obtain ⟨content, hv, hdepth⟩ := NetworkMarker.faithful.exists_content h rfl
    exact ⟨.network content, hv, hdepth⟩
  · obtain ⟨binding, hv, hdepth⟩ := Transport.faithful.exists_content h rfl
    exact ⟨.transport binding, hv, hdepth⟩
  · obtain ⟨content, hv, hdepth⟩ := DatabaseMarker.faithful.exists_content h rfl
    exact ⟨.database content, hv, hdepth⟩
  · obtain ⟨content, hv, hdepth⟩ := MemoryMarker.faithful.exists_content h rfl
    exact ⟨.memory content, hv, hdepth⟩
  · obtain ⟨content, hv, hdepth⟩ := KeyValueStoreMarker.faithful.exists_content h rfl
    exact ⟨.keyValueStore content, hv, hdepth⟩
  · obtain ⟨method, hv, hdepth⟩ := faithful_reuse.exists_content h rfl
    exact ⟨.reuse method, hv, hdepth⟩
  · exact ⟨.targets, h, h ▸ Nat.zero_le n⟩
  · obtain ⟨marker, hv, hdepth⟩ := ControllerMarker.faithful.exists_content h rfl
    exact ⟨.controllerReference marker, hv, hdepth⟩
  · obtain ⟨target, hv, hdepth⟩ := faithful_paramsProvider.exists_content h rfl
    exact ⟨.paramsProvider target, hv, hdepth⟩
  · exact ⟨.cancelPrevious, h, h ▸ Nat.zero_le n⟩
  · obtain ⟨name, hv, hdepth⟩ := faithful_forward.exists_content h rfl
    exact ⟨.forward name, hv, hdepth⟩

/-- Markers of all kinds are written and read alike. -/
theorem Marker.faithful : Faithful .marker anywhere Marker.toJson Marker.ofJson where
  read_write := Marker.ofJson_toJson
  form := Marker.abbreviates_toJson
  covers n _ := Marker.covers n

end DataRequests
