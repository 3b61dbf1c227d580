import DataRequests.Json.Writer
import DataRequests.Proofs.WrittenParts

/-!
# Documents are read back

The parts of a document that hold types have room wherever they stand: a document is entered with an odd number of levels free, an
interface and a method are again, and their types then stand where an even number is free. So a document that was read nests
no deeper than a text may, although it is written with lists that its text left out, and writing and reading it again gives
the same document (`Document.write_parse_inverse`).
-/

namespace DataRequests

open Json (Abbreviates AbbreviatesItems AbbreviatesMembers)

/-! ## Parameters, methods, interfaces and documents -/

/-- A parameter stands where an odd number of levels is free, so that its type has room. -/
theorem Parameter.faithful : Faithful .parameter (· % 2 = 1) Parameter.toJson Parameter.ofJson where
  read_write p := by
    have htype := TypeExpr.faithful.read_write p.type
    have htags := ParameterTag.faithful.read_list p.tags
    simp [Parameter.ofJson, Parameter.toJson, Json.field, Json.members, Json.member?, Json.text, htype, htags]
  form p :=
    .record rfl
      (.keep (.string p.name) (.keep (TypeExpr.faithful.form p.type) (.keep (ParameterTag.faithful.form_list _ p.tags) .nil)))
      (.refl _)
  covers n hn v hv := by
    obtain ⟨m, _, rfl, rfl, h₀⟩ := hv.exists_members rfl
    obtain ⟨name, _, rfl, h₁⟩ := exists_textMember h₀
    obtain ⟨type, _, rfl, htype, h₂⟩ := exists_partMember h₁ (TypeExpr.faithful.covers m (by omega))
    -- A type has been read, so there is a level for the tags too.
    have hpos := type.depth_pos
    obtain ⟨tags, _, rfl, htags, h₃⟩ :=
      exists_listMember h₂ (fun l _ => ParameterTag.faithful.covers l trivial) (by omega)
    cases h₃
    refine ⟨⟨name, type, tags⟩, rfl, ?_⟩
    simp only [Json.depth, Json.depthOfMembers]
    omega

/-- So does a method. -/
theorem Method.faithful : Faithful .method (· % 2 = 1) Method.toJson Method.ofJson where
  read_write m := by
    have htype := TypeExpr.faithful.read_write m.returnType
    have hparameters := Parameter.faithful.read_list m.parameters
    have hmarkers := Marker.faithful.read_list m.markers
    simp [Method.ofJson, Method.toJson, Json.field, Json.members, Json.member?, Json.text, htype, hparameters, hmarkers]
  form m :=
    .record rfl
      (.keep (.string m.name) (.keep (TypeExpr.faithful.form m.returnType)
        (.keep (Parameter.faithful.form_list _ m.parameters) (.keep (Marker.faithful.form_list _ m.markers) .nil))))
      (.refl _)
  covers n hn v hv := by
    obtain ⟨m, _, rfl, rfl, h₀⟩ := hv.exists_members rfl
    obtain ⟨name, _, rfl, h₁⟩ := exists_textMember h₀
    obtain ⟨returnType, _, rfl, htype, h₂⟩ := exists_partMember h₁ (TypeExpr.faithful.covers m (by omega))
    -- A type has been read, so there is a level for the two lists too.
    have hpos := returnType.depth_pos
    obtain ⟨parameters, _, rfl, hparameters, h₃⟩ :=
      exists_listMember h₂ (fun l _ => Parameter.faithful.covers l (by omega)) (by omega)
    obtain ⟨markers, _, rfl, hmarkers, h₄⟩ := exists_listMember h₃ (fun l _ => Marker.faithful.covers l trivial) (by omega)
    cases h₄
    refine ⟨⟨name, returnType, parameters, markers⟩, rfl, ?_⟩
    simp only [Json.depth, Json.depthOfMembers]
    omega

/-- An interface stands where another level is free for the list of its methods. -/
theorem Interface.faithful : Faithful .interface (fun n => n % 2 = 1 ∧ 1 < n) Interface.toJson Interface.ofJson where
  read_write i := by
    have hconfig := Defaults.faithful.read_option i.config
    have hnetwork := NetworkDefaults.faithful.read_option i.network
    have hmethods := Method.faithful.read_list i.methods
    simp [Interface.ofJson, Interface.toJson, Json.field, Json.members, Json.member?, Json.text, hconfig, hnetwork, hmethods]
  form i :=
    .record rfl
      (.keep (.string i.name) (.keep (Defaults.faithful.form_option i.config)
        (.keep (NetworkDefaults.faithful.form_option i.network) (.keep (Method.faithful.form_list _ i.methods) .nil))))
      (.refl _)
  covers n hn v hv := by
    obtain ⟨m, _, rfl, rfl, h₀⟩ := hv.exists_members rfl
    obtain ⟨name, _, rfl, h₁⟩ := exists_textMember h₀
    obtain ⟨config, _, rfl, hconfig, h₂⟩ := exists_optionalPart h₁ (Defaults.faithful.covers m trivial)
    obtain ⟨network, _, rfl, hnetwork, h₃⟩ := exists_optionalPart h₂ (NetworkDefaults.faithful.covers m trivial)
    obtain ⟨methods, _, rfl, hmethods, h₄⟩ := exists_listMember h₃ (fun l _ => Method.faithful.covers l (by omega)) (by omega)
    cases h₄
    refine ⟨⟨name, config, network, methods⟩, rfl, ?_⟩
    simp only [Json.depth, Json.depthOfMembers]
    omega

/-- A document stands where another one is free for the list of its interfaces. -/
theorem Document.faithful : Faithful .document (fun n => n % 2 = 1 ∧ 3 < n) Document.toJson Document.ofJson where
  read_write d := by
    have hconfig := Defaults.faithful.read_option d.config
    have hinterfaces := Interface.faithful.read_list d.interfaces
    simp [Document.ofJson, Document.toJson, Json.field, Json.members, Json.member?, hconfig, hinterfaces]
  form d :=
    .record rfl
      (.keep (Defaults.faithful.form_option d.config) (.keep (Interface.faithful.form_list _ d.interfaces) .nil)) (.refl _)
  covers n hn v hv := by
    obtain ⟨m, _, rfl, rfl, h₀⟩ := hv.exists_members rfl
    obtain ⟨config, _, rfl, hconfig, h₁⟩ := exists_optionalPart h₀ (Defaults.faithful.covers m trivial)
    obtain ⟨w, _, rfl, hw, h₂⟩ := h₁.exists_cons
    cases h₂
    obtain ⟨interfaces, rfl, hinterfaces⟩ : ∃ l, w = Json.ofList Interface.toJson l ∧ w.depth ≤ m := by
      rcases hw with hw | hw
      · exact Covers.exists_list (fun l _ => Interface.faithful.covers l (by omega)) hw
      · cases hw
    refine ⟨⟨config, interfaces⟩, rfl, ?_⟩
    simp only [Json.depth, Json.depthOfMembers]
    omega

/-! ## Texts of documents -/

/-- A document is read from any text of a form of it, when it nests no deeper than a text may. -/
theorem Document.parse_of_form {d : Document} {j : Json} {text : String} (hdepth : d.toJson.depth ≤ 127)
    (hform : Abbreviates declarationSchema (.part .document) d.toJson j) (htext : Json.IsTextOf text j) :
    Document.parse text = .ok d := by
  have hread : Json.read declarationSchema (.part .document) text = .ok d.toJson :=
    hform.read_eq_ok declarationSchema_names_nodup hdepth htext
  rw [Document.parse, hread, Except.map, Document.faithful.read_write]

/-- A document that was read nests no deeper than a text may. -/
theorem Document.depth_le_of_parse {d : Document} {text : String} (h : Document.parse text = .ok d) : d.toJson.depth ≤ 127 := by
  obtain ⟨v, hread, rfl⟩ := Json.exists_of_map_eq_ok h
  have hadmits := Json.admits_of_read declarationSchema_names_nodup hread
  obtain ⟨d, rfl, hdepth⟩ := Document.faithful.covers Json.depthLimit (by decide) v hadmits
  rw [Document.faithful.read_write]
  exact hdepth

/-- A document is read back from any text of its written form, when it nests no deeper than a text may. -/
theorem Document.parse_written {d : Document} {text : String} (hdepth : d.toJson.depth ≤ 127)
    (htext : Json.IsTextOf text d.toJson) : Document.parse text = .ok d :=
  Document.parse_of_form hdepth (Document.faithful.form d) htext

/-- **Writing and reading documents are inverse.** A document whose written form nests at most 127 levels is read back from any text
of its written form, and from any text of another form of it, which has the members of objects in another order or leaves out members
that hold their default. Every document that was read nests no deeper, so it is read again from what is written for it. -/
theorem Document.write_parse_inverse :
    (∀ (d : Document) (text : String), d.toJson.depth ≤ 127 → Json.IsTextOf text d.toJson → Document.parse text = .ok d) ∧
    (∀ (d : Document) (form : Json) (text : String), d.toJson.depth ≤ 127 →
      Abbreviates declarationSchema (.part .document) d.toJson form → Json.IsTextOf text form → Document.parse text = .ok d) ∧
    (∀ (d : Document) (text : String), Document.parse text = .ok d →
      d.toJson.depth ≤ 127 ∧ Document.parse d.toJson.compact = .ok d ∧ Document.parse d.toJson.indented = .ok d) := by
  refine ⟨?_, ?_, ?_⟩
  · intro d text hdepth htext
    exact Document.parse_written hdepth htext
  · intro d form text hdepth hform htext
    exact Document.parse_of_form hdepth hform htext
  · intro d text h
    have hdepth := Document.depth_le_of_parse h
    exact ⟨hdepth, Document.parse_written hdepth (Json.compact_isTextOf _), Document.parse_written hdepth (Json.indented_isTextOf _)⟩

/-- A document with one request. -/
def itemsDocument : Document where
  interfaces :=
    [{ name := "Items"
       methods :=
        [{ name := "items"
           returnType := { name := "Result", args := [{ name := "Item" }], capabilities := [.request] }
           markers := [.database { isAsync := true }] }] }]

/-- The document with the members of each object in another order, and without those that hold their default. -/
def itemsForm : Json :=
  .object
    [("interfaces", .array [.object
      [("methods", .array [.object
        [("annotations", .array [.object [("database", .object [("is-async", .boolean true)])]]),
         ("return-type", .object
          [("capabilities", .array [.string "request"]),
           ("args", .array [.object [("name", .string "Item")]]),
           ("name", .string "Result")]),
         ("name", .string "items")]]),
       ("name", .string "Items")]])]

/-- It is a form of the document, with its members reordered and left out record by record. -/
theorem itemsForm_abbreviates : Abbreviates declarationSchema (.part .document) itemsDocument.toJson itemsForm := by
  have hitem : Abbreviates declarationSchema (.part .type) (TypeExpr.mk "Item" [] []).toJson (.object [("name", .string "Item")]) :=
    .record rfl (.keep (.string "Item") (.drop rfl (.drop rfl .nil))) (.refl _)
  have hresult : Abbreviates declarationSchema (.part .type)
      (TypeExpr.mk "Result" [⟨"Item", [], []⟩] [.request]).toJson
      (.object
        [("capabilities", .array [.string "request"]), ("args", .array [.object [("name", .string "Item")]]),
         ("name", .string "Result")]) :=
    .record rfl
      (.keep (.string "Result") (.keep (.list _ (.cons hitem (.nil _)))
        (.keep (.list _ (.cons (Capability.faithful.form .request) (.nil _))) .nil)))
      (List.reverse_perm _).symm
  have hdatabase : Abbreviates declarationSchema (.part .marker) (Marker.database { isAsync := true }).toJson
      (.object [("database", .object [("is-async", .boolean true)])]) :=
    .content (x := ⟨"database", .value (.part .database)⟩) rfl (by simp) rfl
      (.record rfl (.drop rfl (.keep (.boolean true) .nil)) (.refl _))
  have hmethod : Abbreviates declarationSchema (.part .method)
      (Method.mk "items" ⟨"Result", [⟨"Item", [], []⟩], [.request]⟩ [] [.database { isAsync := true }]).toJson _ :=
    .record rfl
      (.keep (.string "items") (.keep hresult (.drop rfl (.keep (.list _ (.cons hdatabase (.nil _))) .nil))))
      (List.reverse_perm _).symm
  exact .record rfl
    (.drop rfl (.keep (.list _ (.cons (.record rfl
      (.keep (.string "Items") (.drop rfl (.drop rfl (.keep (.list _ (.cons hmethod (.nil _))) .nil))))
      (List.reverse_perm _).symm) (.nil _))) .nil))
    (.refl _)

/-- The document is read from both texts. -/
theorem itemsDocument_write_parse :
    itemsDocument.toJson.depth ≤ 127 ∧ Document.parse itemsForm.compact = .ok itemsDocument ∧
      Document.parse itemsDocument.toJson.indented = .ok itemsDocument := by
  have hdepth : itemsDocument.toJson.depth ≤ 127 := by decide
  have hform : Document.parse itemsForm.compact = .ok itemsDocument :=
    Document.write_parse_inverse.2.1 itemsDocument itemsForm _ hdepth itemsForm_abbreviates (Json.compact_isTextOf _)
  have hwritten : Document.parse itemsDocument.toJson.indented = .ok itemsDocument :=
    Document.write_parse_inverse.1 itemsDocument _ hdepth (Json.indented_isTextOf _)
  exact ⟨(Document.write_parse_inverse.2.2 itemsDocument _ hform).1, hform, hwritten⟩

end DataRequests
