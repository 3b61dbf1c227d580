import DataRequests.Proofs.References

/-!
# Where enabled kinds come from

Every kind that a request enables is told by markers: its own, those of the method that it reuses, or the lack of any
(`enabled_by_markers`). Scanning enables what is declared, one of two merges joins it with what the reused method declares, and
the default kinds come last; what is declared stays the method's own throughout.
-/

namespace DataRequests

/-! ## What markers say -/

/-- The kind that a marker declares. -/
def Marker.source? : Marker → Option SourceKind
  | .network _ | .transport _ => some .network
  | .database _ => some .database
  | .memory _ => some .memory
  | .keyValueStore _ => some .keyValueStore
  | _ => none

namespace Method

/-- Whether a marker of the method declares a kind. -/
def declares (m : Method) (kind : SourceKind) : Bool :=
  m.markers.any (·.source? = some kind)

/-- What the method says of itself as a controller reference, if it is one: its first such marker. -/
def controllerMarker (m : Method) : Option ControllerMarker :=
  m.markers.findSome? Marker.controller?

/-- Whether the method is a controller reference. -/
def isController (m : Method) : Bool :=
  m.controllerMarker.isSome

/-- Whether the handle of the method comes through the constructor. -/
def isBound (m : Method) : Bool :=
  m.controllerMarker.any fun c => c.inConstructor || c.optional

end Method

/-- The network is declared by its own marker and by a transport binding. -/
theorem declared_scanNetwork (marker : Option NetworkMarker) (transport : Option Transport) :
    (scanNetwork marker transport).declared = (marker.isSome || transport.isSome) := by
  cases marker <;> cases transport <;> rfl

theorem declared_scanDatabase (marker : Option DatabaseMarker) (isSingleResult : Bool) :
    (scanDatabase marker isSingleResult).declared = marker.isSome := by
  cases marker <;> rfl

theorem declared_scanMemory (marker : Option MemoryMarker) : (scanMemory marker).declared = marker.isSome := by
  cases marker <;> rfl

theorem declared_scanKeyValueStore (marker : Option KeyValueStoreMarker) (method : String) :
    (scanKeyValueStore marker method).declared = marker.isSome := by
  cases marker <;> rfl

/-- The kinds that sorted markers declare are those that the markers declare. -/
theorem Markers.isDeclared_sources_ofFirst (markers : List Marker) (method : String) (isSingleResult : Bool)
    (kind : SourceKind) :
    ((ofFirst markers).sources method isSingleResult).isDeclared kind = markers.any (·.source? = some kind) := by
  cases kind with
  | network =>
    -- two searches stand for one kind here
    have hmarker : ∀ a : Marker, a.source? = some .network ↔ a.network?.isSome = true ∨ a.transport?.isSome = true := by
      intro a
      cases a <;> simp [Marker.source?, Marker.network?, Marker.transport?]
    refine (declared_scanNetwork _ _).trans ?_
    rw [Bool.eq_iff_iff]
    simp only [ofFirst, List.isSome_findSome?, Bool.or_eq_true, List.any_eq_true, decide_eq_true_eq, hmarker, and_or_left,
      exists_or]
  | database =>
    refine (declared_scanDatabase _ _).trans (List.isSome_findSome?.trans (List.any_congr rfl fun a => ?_))
    cases a <;> rfl
  | memory =>
    refine (declared_scanMemory _).trans (List.isSome_findSome?.trans (List.any_congr rfl fun a => ?_))
    cases a <;> rfl
  | keyValueStore =>
    refine (declared_scanKeyValueStore _ _).trans (List.isSome_findSome?.trans (List.any_congr rfl fun a => ?_))
    cases a <;> rfl

/-- A prepared spec declares what the markers of its method declare, and is bound and a controller reference as they say. -/
theorem Method.markers_of_prepare {m : Method} {d : Defaults} {r : RequestSpec} (h : m.prepare d = .ok r) :
    r.sources.isDeclared = m.declares ∧ r.isController = m.isController ∧ r.boundInConstructor = m.isBound := by
  obtain ⟨-, -, -, shape, -, rfl⟩ := (m.scan_eq_ok_iff d r).mp ((m.prepare_eq_ok_iff d r).mp h).1
  refine ⟨?_, rfl, rfl⟩
  funext kind
  simp only [specOf, SourceConfigs.isDeclared_withDefaults, Markers.isDeclared_sources_ofFirst]
  rfl

/-- A method declares a kind exactly when its prepared spec declares any. -/
theorem Method.declaresAny_of_prepare {m : Method} {d : Defaults} {r : RequestSpec} (h : m.prepare d = .ok r) :
    r.sources.declaresAny = true ↔ ∃ kind, m.declares kind = true := by
  rw [SourceConfigs.declaresAny_iff, (markers_of_prepare h).1]

/-! ## What a reuse enables -/

/-- The default kinds are the network, the database and memory. -/
theorem SourceKind.isDefault_iff (kind : SourceKind) :
    kind.isDefault = true ↔ kind = .network ∨ kind = .database ∨ kind = .memory := by
  cases kind <;> simp [isDefault]

/-- Where the enabled kinds of a spec come from, which is that of a method `m` merged with the handle of a method `s`. -/
structure RequestSpec.EnabledBeside (r : RequestSpec) (m s : Method) : Prop where
  /-- A handle from the constructor is taken to have what the two declare. -/
  bound : s.isBound = true → ∀ kind, r.sources.isEnabled kind = true ↔ s.declares kind = true ∨ m.declares kind = true
  /-- Any other handle has what its own method declares, and this covers what the reusing method declares. -/
  built : s.isBound = false → (∃ kind, m.declares kind = true) ∨ m.isController = true →
    (∀ kind, r.sources.isEnabled kind = true ↔ s.declares kind = true) ∧
      ∀ kind, m.declares kind = true → s.declares kind = true
  /-- A method that declares nothing has the default kinds as well. -/
  defaulted : s.isBound = false → (∀ kind, m.declares kind = false) → m.isController = false →
    ∀ kind, r.sources.isEnabled kind = true ↔
      s.declares kind = true ∨ kind = .network ∨ kind = .database ∨ kind = .memory

/-- A valid merge of two prepared specs enables what the markers of their methods say. -/
theorem RequestSpec.enabledBeside_of_merge {m s : Method} {d : Defaults} {own reference : RequestSpec} {target : String}
    (hown : m.prepare d = .ok own) (hreference : s.prepare d = .ok reference) (hreuse : own.reuses = some target)
    (hvalid : (own.merge reference).Valid) : (own.merge reference).EnabledBeside m s := by
  obtain ⟨hdeclared, hcontroller, hbound⟩ := Method.markers_of_prepare hown
  obtain ⟨hdeclared', -, hbound'⟩ := Method.markers_of_prepare hreference
  have hprepared := Method.prepared_of_prepare hown
  have henabled : ∀ kind, (own.merge reference).sources.isEnabled kind =
      (s.declares kind || if s.isBound then m.declares kind else own.mergeDefault kind) := by
    intro kind
    rw [← hdeclared', ← hbound', ← hdeclared, ← (Method.prepared_of_prepare hreference).enabled]
    exact isEnabled_mergedSources own reference kind
  have havailable : ∀ kind, m.declares kind = true → (own.merge reference).sources.isEnabled kind = true := by
    intro kind hkind
    refine hvalid.available (by rw [merge_eq]; simp [hreuse]) kind ?_
    show (own.mergedSources reference).isDeclared kind = true
    rw [isDeclared_mergedSources, hdeclared, hkind]
  constructor
  case bound =>
    intro hs kind
    rw [henabled, if_pos hs, Bool.or_eq_true]
  case built =>
    intro hs hm
    -- a method with a kind or a handle of its own has no default kinds
    have hdefault : ∀ kind, own.mergeDefault kind = false := by
      intro kind
      rcases hm with hany | hm
      · simp [mergeDefault, (Method.declaresAny_of_prepare hown).mpr hany]
      · simp [mergeDefault, hcontroller, hm]
    have hkinds : ∀ kind, (own.merge reference).sources.isEnabled kind = s.declares kind := by
      intro kind
      rw [henabled, hs, hdefault]
      simp
    refine ⟨fun kind => by rw [hkinds], fun kind hkind => ?_⟩
    rw [← hkinds]
    exact havailable kind hkind
  case defaulted =>
    intro hs hnone hm kind
    have hany : own.sources.declaresAny = false := by
      rw [Bool.eq_false_iff]
      intro h
      obtain ⟨k, hk⟩ := (Method.declaresAny_of_prepare hown).mp h
      exact Bool.false_ne_true ((hnone k).symm.trans hk)
    have hfree : own.boundInConstructor = false := by
      rw [Bool.eq_false_iff]
      intro h
      exact Bool.false_ne_true (hm.symm.trans (hcontroller ▸ hprepared.bound h))
    rw [henabled, hs, Bool.or_eq_true, ← SourceKind.isDefault_iff]
    simp [mergeDefault, hany, hfree, hcontroller, hm]

/-- A merge enables the key-value store only if one of the two methods declares it: it is no default kind. -/
theorem RequestSpec.EnabledBeside.store {r : RequestSpec} {m s : Method} (h : r.EnabledBeside m s)
    (hstore : r.sources.isEnabled .keyValueStore = true) :
    m.declares .keyValueStore = true ∨ s.declares .keyValueStore = true := by
  cases hs : s.isBound with
  | true => exact ((h.bound hs _).mp hstore).symm
  | false =>
    by_cases hm : (∃ kind, m.declares kind = true) ∨ m.isController = true
    · exact Or.inr (((h.built hs hm).1 _).mp hstore)
    · obtain ⟨hnone, hcontroller⟩ := not_or.mp hm
      have hnone : ∀ kind, m.declares kind = false := fun kind => Bool.eq_false_iff.mpr fun hkind => hnone ⟨kind, hkind⟩
      have hkinds := (h.defaulted hs hnone (Bool.eq_false_iff.mpr hcontroller) _).mp hstore
      exact Or.inr (by simpa using hkinds)

/-! ## What is output -/

/-- Where the enabled kinds of a request `r` of an interface come from, which is the spec of a method `m`. -/
structure Interface.EnabledBy (i : Interface) (r : RequestSpec) (m : Method) : Prop where
  /-- What is declared is what the method's own markers declare. -/
  declared : r.sources.isDeclared = m.declares
  /-- A method that reuses no other enables what it declares. -/
  alone : r.reuses = none → r.sources.isEnabled = m.declares
  /-- A reuse has found a single method, and joins what that one declares. -/
  reference : ∀ target, r.reuses = some target → ∃ s, i.reusable r.name target = [s] ∧ r.EnabledBeside m s
  /-- The store is enabled by nothing but a declaration. -/
  store : r.sources.isEnabled .keyValueStore = true →
    m.declares .keyValueStore = true ∨
      ∃ target s, r.reuses = some target ∧ i.reusable r.name target = [s] ∧ s.declares .keyValueStore = true

variable {i : Interface} {outer : Defaults} {m : Method} {r : RequestSpec}

/-- The enabled kinds of the spec of a method come from markers. -/
theorem Interface.enabledBy_of_resolved? (h : i.resolved? outer m = some r) : i.EnabledBy r m := by
  obtain ⟨own, hprepare, hresolve, hvalid⟩ := (i.resolved?_eq_some_iff outer m r).mp h
  have hdeclared := (Method.markers_of_prepare hprepare).1
  rcases (own.resolveReuse_eq_ok_iff _ r).mp hresolve with ⟨hnone, rfl⟩ | ⟨target, handle, hsome, hlookup, -, rfl⟩
  · have halone : r.sources.isEnabled = m.declares := (Method.prepared_of_prepare hprepare).enabled.trans hdeclared
    refine ⟨hdeclared, fun _ => halone, fun target hsome => ?_, fun hstore => Or.inl (halone ▸ hstore)⟩
    cases hnone.symm.trans hsome
  · obtain ⟨s, hone, hs⟩ := lookup_pool_eq_ok_iff.mp hlookup
    have hbeside : (own.merge handle).EnabledBeside m s :=
      RequestSpec.enabledBeside_of_merge hprepare ((s.standalone_eq_ok_iff _ handle).mp hs).1 hsome hvalid
    have hreuses : (own.merge handle).reuses = some target := by rw [RequestSpec.merge_eq]; exact hsome
    have hname : (own.merge handle).name = own.name := by rw [RequestSpec.merge_eq]
    constructor
    case declared => exact (RequestSpec.isDeclared_mergedSources own handle).trans hdeclared
    case alone =>
      intro hnone
      cases hreuses.symm.trans hnone
    case reference =>
      intro other hother
      cases hreuses.symm.trans hother
      exact ⟨s, hname.symm ▸ hone, hbeside⟩
    case store =>
      intro hstore
      rcases hbeside.store hstore with hm | hs
      · exact Or.inl hm
      · exact Or.inr ⟨target, s, hreuses, hname.symm ▸ hone, hs⟩

/-- The enabled kinds of every request in the output come from the markers of its method and of the method that it reuses, and the
declared ones from its own alone. -/
theorem enabled_by_markers (hr : r ∈ (i.resolve outer).1.requests) :
    ∃ m, i.first? r.name = some m ∧ m.isRequest = true ∧ i.EnabledBy r m := by
  obtain ⟨m, hfirst, hrequest, hresolved⟩ := (i.mem_spec_requests outer r).mp hr
  exact ⟨m, hfirst, hrequest, Interface.enabledBy_of_resolved? hresolved⟩

/-- A request with two kinds, one that reuses it and declares nothing, and one that reuses it and declares one of the two by its
transport. -/
def cachedItems : Interface where
  name := "Items"
  methods :=
    [{ name := "items", returnType := .wrapping .request "Item", markers := [.network {}, .memory {}] },
     { name := "getItem", returnType := .wrapping .request "Item", markers := [.reuse "items"] },
     { name := "fetchItem", returnType := .wrapping .request "Item",
       markers := [.reuse "items", .targets, .transport ⟨"GET", "/items"⟩] }]

/-- The request without kinds of its own has the database by default, the other one has not. -/
theorem cachedItems_enabled :
    (∃ r ∈ (cachedItems.resolve {}).1.requests, r.name = "getItem" ∧ r.sources.isEnabled .database = true ∧
      ∃ m, cachedItems.first? r.name = some m ∧ m.isRequest = true ∧ cachedItems.EnabledBy r m) ∧
    ∃ r ∈ (cachedItems.resolve {}).1.requests, r.name = "fetchItem" ∧ r.sources.isEnabled .database = false ∧
      ∃ m, cachedItems.first? r.name = some m ∧ m.isRequest = true ∧ cachedItems.EnabledBy r m := by
  obtain ⟨⟨r, hr, hname, hdatabase⟩, r', hr', hname', hdatabase'⟩ :
      (∃ r ∈ (cachedItems.resolve {}).1.requests, r.name = "getItem" ∧ r.sources.isEnabled .database = true) ∧
        ∃ r ∈ (cachedItems.resolve {}).1.requests, r.name = "fetchItem" ∧ r.sources.isEnabled .database = false := by
    decide
  exact ⟨⟨r, hr, hname, hdatabase, enabled_by_markers hr⟩, r', hr', hname', hdatabase', enabled_by_markers hr'⟩

end DataRequests
