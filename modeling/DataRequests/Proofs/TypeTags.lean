import DataRequests.Proofs.AlikeMethods
import DataRequests.Proofs.ProviderPairing

/-!
# The tags of types

The capabilities of a type are tags, and the type is meant to have a set of them. That of an argument or a parameter is read as a set:
neither the order of the tags nor how often one is given changes anything (`Document.Retagged.alike`). Of a return type the first tag of
some kinds is read, and so two return types with the same tags may be exchanged in all documents exactly when the same is read from both
(`resolve_of_retagged_iff`). That is so when the type wraps its data in one way at most.
-/

namespace DataRequests

/-! ## Types with the same tags -/

namespace TypeExpr

mutual

/-- Two types that differ at most in the order of their tags and in how often a tag is given, and so for all their arguments. -/
inductive SameTags : TypeExpr → TypeExpr → Prop where
  | mk {name : String} {args args' : List TypeExpr} {capabilities capabilities' : List Capability} (hargs : SameTagsArgs args args')
      (hcapabilities : ∀ c, c ∈ capabilities ↔ c ∈ capabilities') :
      SameTags ⟨name, args, capabilities⟩ ⟨name, args', capabilities'⟩

/-- The types of two lists have the same tags one by one. -/
inductive SameTagsArgs : List TypeExpr → List TypeExpr → Prop where
  | nil : SameTagsArgs [] []
  | cons {t u : TypeExpr} {ts us : List TypeExpr} (h : SameTags t u) (hrest : SameTagsArgs ts us) :
      SameTagsArgs (t :: ts) (u :: us)

end

mutual

theorem SameTags.chars_eq {t u : TypeExpr} : t.SameTags u → t.chars = u.chars
  | .mk .nil _ => rfl
  | .mk (.cons h hrest) _ => by rw [chars, chars, h.chars_eq, hrest.argChars_eq]

theorem SameTagsArgs.argChars_eq {ts us : List TypeExpr} : SameTagsArgs ts us → argChars ts = argChars us
  | .nil => rfl
  | .cons h hrest => by rw [argChars, argChars, h.chars_eq, hrest.argChars_eq]

end

variable {t u : TypeExpr}

theorem SameTags.mem_capabilities (h : t.SameTags u) (c : Capability) : c ∈ t.capabilities ↔ c ∈ u.capabilities := by
  cases h with
  | mk _ hcapabilities => exact hcapabilities c

/-- Such types are written alike. -/
theorem SameTags.render_eq (h : t.SameTags u) : t.render = u.render := by
  rw [render, render, h.chars_eq]

/-- Such types have the same capabilities. -/
theorem SameTags.has_eq (h : t.SameTags u) (c : Capability) : t.has c = u.has c := by
  rw [Bool.eq_iff_iff, has, has, List.contains_iff_mem, List.contains_iff_mem]
  exact h.mem_capabilities c

theorem SameTags.isSourceParams_eq (h : t.SameTags u) : t.isSourceParams = u.isSourceParams := by
  rw [Bool.eq_iff_iff, isSourceParams, isSourceParams, List.any_eq_true, List.any_eq_true]
  simp only [h.mem_capabilities]

theorem SameTags.isList_eq (h : t.SameTags u) : t.isList = u.isList :=
  h.has_eq .list

/-- Such types give a parameter the same role. -/
theorem SameTags.role_eq (h : t.SameTags u) : t.role = u.role := by
  rw [role, role, h.has_eq, h.has_eq, h.isSourceParams_eq]

/-- The elements of such types are such types. -/
theorem SameTags.element (h : t.SameTags u) : t.element.SameTags u.element := by
  cases h with
  | mk hargs hcapabilities =>
    cases hargs with
    | nil => exact .mk .nil hcapabilities
    | cons h hrest => exact h

/-- The data of a type that is not looked up is its only argument. -/
theorem dataType?_of_ne {kind : ReturnKind} (hkind : kind ≠ .syncLookup) (t : TypeExpr) :
    t.dataType? kind = match t.args with | [data] => some data | _ => none := by
  obtain ⟨name, args, capabilities⟩ := t
  cases kind with
  | syncLookup => exact absurd rfl hkind
  | _ => rcases args with _ | ⟨data, _ | ⟨more, rest⟩⟩ <;> rfl

/-- The data of such types, if they have any, are such types. -/
theorem SameTags.dataType? (h : t.SameTags u) (kind : ReturnKind) :
    (t.dataType? kind = none ∧ u.dataType? kind = none) ∨
      ∃ data data', t.dataType? kind = some data ∧ u.dataType? kind = some data' ∧ data.SameTags data' := by
  by_cases hkind : kind = .syncLookup
  · subst hkind
    exact .inr ⟨t, u, rfl, rfl, h⟩
  · rw [dataType?_of_ne hkind, dataType?_of_ne hkind]
    cases h with
    | mk hargs _ =>
      cases hargs with
      | nil => exact .inl ⟨rfl, rfl⟩
      | cons h hrest =>
        cases hrest with
        | nil => exact .inr ⟨_, _, rfl, rfl, h⟩
        | cons => exact .inl ⟨rfl, rfl⟩

/-- Such types have the same shape as return types when the same tag wraps their data. -/
theorem SameTags.shape_eq (h : t.SameTags u) (hwrapper : t.wrapper = u.wrapper) (isController : Bool) :
    ReturnShape.ofType t isController = ReturnShape.ofType u isController := by
  have hkind : t.returnKind isController = u.returnKind isController := by simp only [returnKind, hwrapper]
  rw [ReturnShape.ofType, ReturnShape.ofType, hkind, h.render_eq]
  cases u.returnKind isController with
  | error reason => rfl
  | ok read =>
    rcases h.dataType? read.1 with ⟨hnone, hnone'⟩ | ⟨data, data', hdata, hdata', hsame⟩
    · simp only [hnone, hnone']
    · simp only [hdata, hdata', hsame.render_eq, hsame.element.render_eq, hsame.isList_eq]

/-! ## First tags -/

/-- A type wraps its data in one way at most: it has no two different tags of wrappers. -/
def HasOneWrapper (t : TypeExpr) : Prop :=
  ∀ c ∈ t.capabilities, ∀ c' ∈ t.capabilities, c.isWrapper = true → c'.isWrapper = true → c = c'

instance (t : TypeExpr) : Decidable t.HasOneWrapper :=
  inferInstanceAs (Decidable (∀ c ∈ t.capabilities, ∀ c' ∈ t.capabilities, c.isWrapper = true → c'.isWrapper = true → c = c'))

/-- In two lists with the same members the same one is found first, if there is one that can be found at most. -/
theorem find?_eq_of_mem_iff {α : Type} {p : α → Bool} {l l' : List α} (hmem : ∀ a, a ∈ l ↔ a ∈ l')
    (hone : ∀ a ∈ l, ∀ b ∈ l, p a = true → p b = true → a = b) : l.find? p = l'.find? p := by
  cases hfind : l'.find? p with
  | none =>
    rw [List.find?_eq_none] at hfind ⊢
    exact fun a ha => hfind a ((hmem a).mp ha)
  | some b =>
    have hb : b ∈ l := (hmem b).mpr (List.mem_of_find?_eq_some hfind)
    have hpb : p b = true := List.find?_some hfind
    obtain ⟨a, ha⟩ := Option.isSome_iff_exists.mp (List.find?_isSome.mpr ⟨b, hb, hpb⟩)
    rw [ha, hone a (List.mem_of_find?_eq_some ha) b hb (List.find?_some ha) hpb]

/-- From types with the same tags, in the same order or with one wrapper at most, the same is read. -/
theorem SameTags.returnsLike (h : t.SameTags u) (htags : t.capabilities = u.capabilities ∨ t.HasOneWrapper) : t.ReturnsLike u := by
  have hfirst : ∀ p : Capability → Bool, (∀ c, p c = true → c.isWrapper = true) → t.capabilities.find? p = u.capabilities.find? p := by
    intro p hp
    rcases htags with hsame | hone
    · rw [hsame]
    · exact find?_eq_of_mem_iff h.mem_capabilities fun c hc c' hc' hpc hpc' => hone c hc c' hc' (hp c hpc) (hp c' hpc')
  refine ⟨h.shape_eq (hfirst _ fun _ hc => hc), ?_⟩
  have hsourceParams := hfirst (·.isSourceParams) fun c hc => by cases c <;> first | rfl | cases hc
  ext kind
  rw [providedKind?_eq_some_iff, providedKind?_eq_some_iff, Offers, Offers, hsourceParams]

end TypeExpr

/-! ## Documents with the same tags -/

/-- The same parameter with a type that has the same tags. -/
structure Parameter.Retagged (p p' : Parameter) : Prop where
  name : p.name = p'.name
  tags : p.tags = p'.tags
  type : p.type.SameTags p'.type

/-- Such parameters have the same role. -/
theorem Parameter.Retagged.resolve {p p' : Parameter} (h : p.Retagged p') : p.resolve = p'.resolve := by
  simp only [Parameter.resolve, Parameter.outsideName, Parameter.role, h.name, h.tags, h.type.render_eq, h.type.role_eq,
    h.type.isSourceParams_eq]

/-- The same method with parameters of types that have the same tags, and a return type that is related to its own. -/
structure Method.Retagged (S : TypeExpr → TypeExpr → Prop) (m m' : Method) : Prop where
  name : m.name = m'.name
  returnType : S m.returnType m'.returnType
  parameters : List.Forall₂ Parameter.Retagged m.parameters m'.parameters
  markers : m.markers = m'.markers

/-- The same interface with such methods. -/
structure Interface.Retagged (S : TypeExpr → TypeExpr → Prop) (i j : Interface) : Prop where
  setting : i.SameSetting j
  methods : List.Forall₂ (Method.Retagged S) i.methods j.methods

/-- The same document with such interfaces. -/
structure Document.Retagged (S : TypeExpr → TypeExpr → Prop) (d d' : Document) : Prop where
  config : d.config = d'.config
  interfaces : List.Forall₂ (Interface.Retagged S) d.interfaces d'.interfaces

section

variable {S : TypeExpr → TypeExpr → Prop} (hS : ∀ t u, S t u → t.SameTags u) (hlike : ∀ t u, S t u → t.ReturnsLike u)
include hS hlike

/-- Such methods are read alike when related return types are. -/
theorem Method.Retagged.alike {m m' : Method} (h : m.Retagged S m') : m.Alike m' where
  name := h.name
  returns := hlike _ _ h.returnType
  rendered := (hS _ _ h.returnType).render_eq
  resolvedParameters := map_eq_of_forall₂ h.parameters fun _ _ hp => hp.resolve
  collect := by rw [h.markers]
  reuseTarget := by rw [Method.reuseTarget, h.markers, ← Method.reuseTarget]
  providerTarget := by rw [Method.providerTarget, h.markers, ← Method.providerTarget]

theorem Document.Retagged.alike {d d' : Document} (h : d.Retagged S d') : d.Alike d' where
  config := h.config
  interfaces := h.interfaces.imp fun _ _ hi => ⟨hi.setting, hi.methods.imp fun _ _ hm => hm.alike hS hlike⟩

end

/-! ## What is read from a return type shows -/

/-- What the spec of a request tells of its return type. -/
def RequestSpec.shape (r : RequestSpec) : ReturnShape where
  returnKind := r.returnKind
  dataType := r.dataType
  elementType := r.elementType
  isSingleResult := r.sources.database.options.isSingleResult
  payloadBuilder := r.payloadBuilder

/-- The marker of the memory, with that of a controller reference or without. -/
def Marker.memories (isController : Bool) : List Marker :=
  .memory {} :: if isController then [.controllerReference { inConstructor := true }] else []

namespace Method

/-- A method with a given return type that reads from the memory. -/
def remembering (t : TypeExpr) (isController : Bool) : Method where
  name := "items"
  returnType := t
  markers := Marker.memories isController

/-- A params provider with a given return type. -/
def providing (t : TypeExpr) : Method where
  name := "itemParams"
  returnType := t
  markers := [.paramsProvider "items"]

variable (t : TypeExpr) (isController : Bool) (shape : ReturnShape) (d : Defaults)

/-- The spec of such a method. -/
def remembered : RequestSpec :=
  (remembering t isController).specOf (.ofFirst (Marker.memories isController)) shape d

/-- Nothing but its return type can be wrong with such a method. -/
theorem prepare_remembering :
    (remembering t isController).prepare d =
      match ReturnShape.ofType t isController with
      | .error fault => .error [fault]
      | .ok shape => .ok (remembered t isController shape d) := by
  have hcollect : Markers.collect (remembering t isController).markers = .ok (.ofFirst (Marker.memories isController)) := by
    cases isController <;> rfl
  have hcontroller : (Markers.ofFirst (Marker.memories isController)).controller.isSome = isController := by
    cases isController <;> rfl
  have htype : (remembering t isController).returnType = t := rfl
  rw [prepare, scan, hcollect]
  simp only [hcontroller, htype]
  cases ReturnShape.ofType t isController with
  | error fault => cases isController <;> rfl
  | ok shape => cases isController <;> rfl

theorem remembered_valid : (remembered t isController shape d).Valid where
  storage := by cases isController <;> rfl
  controller := by cases isController <;> exact nofun
  targeted := by cases isController <;> exact nofun
  targets := by cases isController <;> exact nofun
  available := by cases isController <;> exact nofun
  delegate := by cases isController <;> exact nofun
  lookup := by cases isController <;> exact fun _ => ⟨.memory, rfl, rfl⟩

/-- The shape of the return type is told by the spec. -/
theorem shape_remembered : (remembered t isController shape d).shape = shape := by
  cases isController <;> rfl

theorem finish_remembered (pool : Pool) : (remembered t isController shape d).finish pool = .ok (remembered t isController shape d) := by
  have hreuse : (remembered t isController shape d).resolveReuse pool = .ok (remembered t isController shape d) := by
    cases isController <;> rfl
  rw [RequestSpec.finish, hreuse]
  exact (RequestSpec.validate_eq_ok_iff _ _).mpr ⟨rfl, remembered_valid t isController shape d⟩

end Method

namespace Interface

/-- The interface of such a method. -/
def returning (t : TypeExpr) (isController : Bool) : Interface where
  name := "Items"
  methods := [.remembering t isController]

/-- An interface with a request and a params provider for it, both with a given return type. -/
def providing (t : TypeExpr) : Interface where
  name := "Items"
  methods := [.remembering t false, .providing t]

variable (t : TypeExpr) (isController : Bool) (outer : Defaults)

/-- The shape of a return type can be told from the specs of the interface. -/
theorem shapes_returning :
    ((returning t isController).spec outer).requests.map (·.shape) = (ReturnShape.ofType t isController).toOption.toList := by
  have hrequests : (returning t isController).requests = [⟨.remembering t isController, false⟩] := by
    cases isController <;> rfl
  simp only [spec, InterfaceSpec.ofMethods, hrequests, List.filterMap_cons, List.filterMap_nil, Entry.spec?, Entry.outcome?,
    Method.prepare_remembering]
  cases ReturnShape.ofType t isController with
  | error fault => rfl
  | ok shape =>
    simp only [Bool.false_eq_true, if_false, Method.finish_remembered, List.map_cons, List.map_nil, Method.shape_remembered]
    rfl

/-- The fault of a return type can be told from the errors of the interface. -/
theorem faults_returning :
    ((returning t isController).allErrors outer).map (·.fault) =
      match ReturnShape.ofType t isController with
      | .error fault => [fault]
      | .ok _ => [] := by
  have hrequests : (returning t isController).requests = [⟨.remembering t isController, false⟩] := by
    cases isController <;> rfl
  have hproviders : (returning t isController).providers = [] := by
    cases isController <;> rfl
  have hrepeats : (returning t isController).repeatErrors = [] := by
    cases isController <;> rfl
  simp only [allErrors, hrepeats, scanErrors, finishErrors, providerErrors, hrequests, hproviders, List.flatMap_cons, List.flatMap_nil,
    Entry.scanFaults, Entry.finishFaults, Entry.outcome?, Method.prepare_remembering]
  cases ReturnShape.ofType t isController with
  | error fault => rfl
  | ok shape =>
    simp only [Bool.false_eq_true, if_false, Method.finish_remembered]
    rfl

/-- The payload that a return type provides can be told from the specs of the interface. -/
theorem payloads_providing : ((providing t).spec outer).providers.map (·.payloadKind) = t.providedKind?.toList := by
  have hproviders : (providing t).providers = [⟨.providing t, false⟩] := rfl
  have htarget : (Method.providing t).targetFaults "items" (providing t).requestMethods = [] := by rfl
  simp only [spec, InterfaceSpec.ofMethods, hproviders, List.filterMap_cons, List.filterMap_nil, Entry.provider?, Bool.false_eq_true,
    if_false, Method.resolveProvider]
  rw [show (Method.providing t).providerTarget.getD "" = "items" from rfl, Method.providerFaults, htarget]
  rw [Method.providedKindFaults]
  rw [show (Method.providing t).returnType = t from rfl]
  cases t.providedKind? with
  | none => rfl
  | some kind => rfl

end Interface

/-- The document of an interface. -/
def Document.single (i : Interface) : Document where
  interfaces := [i]

/-- Documents of one interface that resolve to the same have the same spec and the same errors. -/
theorem Document.single_congr {i j : Interface} {outer : Defaults} (h : (single i).resolve outer = (single j).resolve outer) :
    i.spec outer = j.spec outer ∧ i.allErrors outer = j.allErrors outer := by
  obtain ⟨hvalues, herrors⟩ := (single i).resolve_eq outer
  obtain ⟨hvalues', herrors'⟩ := (single j).resolve_eq outer
  rw [h] at hvalues herrors
  refine ⟨?_, ?_⟩
  · exact (List.cons.inj (hvalues.symm.trans hvalues')).1
  · simpa [single, Interface.reports, defaults, Defaults.overlay?] using herrors.symm.trans herrors'

/-- Return types are read alike when the documents that show what is read from them resolve to the same. -/
theorem TypeExpr.ReturnsLike.of_resolve {t u : TypeExpr} {outer : Defaults}
    (hreturning : ∀ isController, (Document.single (.returning t isController)).resolve outer =
      (Document.single (.returning u isController)).resolve outer)
    (hproviding : (Document.single (.providing t)).resolve outer = (Document.single (.providing u)).resolve outer) :
    t.ReturnsLike u where
  shape := by
    intro isController
    obtain ⟨hspec, herrors⟩ := Document.single_congr (hreturning isController)
    have hshapes := Interface.shapes_returning t isController outer
    have hfaults := Interface.faults_returning t isController outer
    rw [hspec, Interface.shapes_returning] at hshapes
    rw [herrors, Interface.faults_returning] at hfaults
    cases ht : ReturnShape.ofType t isController with
    | error fault =>
      rw [ht] at hfaults hshapes
      cases hu : ReturnShape.ofType u isController with
      | error fault' =>
        rw [hu] at hfaults
        exact congrArg Except.error (List.cons.inj hfaults).1.symm
      | ok shape => rw [hu] at hshapes; cases hshapes
    | ok shape =>
      rw [ht] at hshapes
      cases hu : ReturnShape.ofType u isController with
      | error fault => rw [hu] at hshapes; cases hshapes
      | ok shape' =>
        rw [hu] at hshapes
        exact congrArg Except.ok (List.cons.inj hshapes).1.symm
  provided := by
    obtain ⟨hspec, -⟩ := Document.single_congr hproviding
    have hpayloads := Interface.payloads_providing t outer
    rw [hspec, Interface.payloads_providing] at hpayloads
    cases ht : t.providedKind? <;> cases hu : u.providedKind? <;> simp_all

/-! ## Exchanging types -/

/-- **Which tags act as a set.** The types of a document may be exchanged for others with the same tags, the return types for some that
are related to them. This changes neither the system nor the errors of any document exactly when the same is read from related return
types. It is when their own tags are the same in order, whatever becomes of their arguments, or no two of these wrap data in different
ways. -/
theorem resolve_of_retagged_iff {S : TypeExpr → TypeExpr → Prop} (hS : ∀ t u, S t u → t.SameTags u) :
    ((∀ (d d' : Document) (outer : Defaults), d.Retagged S d' → d.resolve outer = d'.resolve outer) ↔
        ∀ t u, S t u → t.ReturnsLike u) ∧
      ∀ t u, S t u → t.capabilities = u.capabilities ∨ t.HasOneWrapper → t.ReturnsLike u := by
  refine ⟨⟨?_, ?_⟩, fun t u htu htags => (hS t u htu).returnsLike htags⟩
  · intro hall t u htu
    have hsingle : ∀ i j : Interface, i.Retagged S j → (Document.single i).resolve {} = (Document.single j).resolve {} :=
      fun i j hij => hall _ _ {} ⟨rfl, .cons hij .nil⟩
    refine .of_resolve (fun isController => hsingle _ _ ⟨⟨rfl, rfl, rfl⟩, .cons ⟨rfl, htu, .nil, rfl⟩ .nil⟩) ?_
    exact hsingle _ _ ⟨⟨rfl, rfl, rfl⟩, .cons ⟨rfl, htu, .nil, rfl⟩ (.cons ⟨rfl, htu, .nil, rfl⟩ .nil)⟩
  · intro hlike d d' outer h
    exact (h.alike hS hlike).resolve outer

/-- A document with a request and a params provider. Each type has two tags, which are given by a function. -/
def taggedItems (tags : Capability → Capability → List Capability) : Document :=
  .single
    { name := "Items"
      methods :=
        [{ name := "items"
           returnType := ⟨"Result", [⟨"List", [{ name := "Item" }], tags .list .callback⟩], tags .request .list⟩
           parameters := [{ name := "done", type := ⟨"Done", [], tags .callback .errorFilter⟩ }]
           markers := [.network {}] },
         { name := "itemParams"
           returnType := ⟨"Params", [], tags (.sourceParams none) .list⟩
           markers := [.paramsProvider "items"] }] }

/-- With the tags turned round and one of them repeated, both methods are output as before. -/
theorem taggedItems_resolve :
    (taggedItems fun c c' => [c, c']).Retagged (fun t u => t.SameTags u ∧ t.HasOneWrapper) (taggedItems fun c c' => [c', c, c']) ∧
      (((taggedItems fun c c' => [c, c']).resolve {}).1.interfaces.values.map fun i => (i.requests.length, i.providers.length)) =
        [(1, 1)] ∧
      (taggedItems fun c c' => [c, c']).resolve {} = (taggedItems fun c c' => [c', c, c']).resolve {} := by
  have hmem : ∀ c c' d : Capability, d ∈ [c, c'] ↔ d ∈ [c', c, c'] := by
    intro c c' d
    simp only [List.mem_cons, List.not_mem_nil, or_false]
    exact ⟨fun h => h.elim (fun h => .inr (.inl h)) .inl, fun h => h.elim .inr fun h => h⟩
  have hitem : (TypeExpr.mk "Item" [] []).SameTags ⟨"Item", [], []⟩ := .mk .nil fun _ => .rfl
  have hretagged : (taggedItems fun c c' => [c, c']).Retagged (fun t u => t.SameTags u ∧ t.HasOneWrapper)
      (taggedItems fun c c' => [c', c, c']) := by
    refine ⟨rfl, .cons ⟨⟨rfl, rfl, rfl⟩, .cons ⟨rfl, ⟨?_, by decide⟩, ?_, rfl⟩ (.cons ⟨rfl, ⟨?_, by decide⟩, .nil, rfl⟩ .nil)⟩ .nil⟩
    · exact .mk (.cons (.mk (.cons hitem .nil) (hmem _ _)) .nil) (hmem _ _)
    · exact .cons ⟨rfl, rfl, .mk .nil (hmem _ _)⟩ .nil
    · exact .mk .nil (hmem _ _)
  obtain ⟨hexchange, hlike⟩ := resolve_of_retagged_iff (S := fun t u => t.SameTags u ∧ t.HasOneWrapper) fun _ _ h => h.1
  exact ⟨hretagged, by decide, hexchange.mpr (fun t u h => hlike t u h (.inr h.2)) _ _ {} hretagged⟩

/-- A result that is wrapped in two ways is handed back in the one that comes first. -/
theorem returning_not_resolve_of_retagged :
    ¬∀ (d d' : Document) (outer : Defaults), d.Retagged TypeExpr.SameTags d' → d.resolve outer = d'.resolve outer := by
  intro hall
  have hsame : (TypeExpr.mk "Result" [⟨"Item", [], []⟩] [.call, .request]).SameTags
      (TypeExpr.mk "Result" [⟨"Item", [], []⟩] [.request, .call]) :=
    .mk (.cons (.mk .nil fun _ => .rfl) .nil) fun c => by simp [or_comm]
  have hdiffer :
      (Document.single (.returning ⟨"Result", [⟨"Item", [], []⟩], [.call, .request]⟩ false)).resolve {} ≠
        (Document.single (.returning ⟨"Result", [⟨"Item", [], []⟩], [.request, .call]⟩ false)).resolve {} := by
    decide
  exact hdiffer (hall _ _ {} ⟨rfl, .cons ⟨⟨rfl, rfl, rfl⟩, .cons ⟨rfl, hsame, .nil, rfl⟩ .nil⟩ .nil⟩)

end DataRequests
