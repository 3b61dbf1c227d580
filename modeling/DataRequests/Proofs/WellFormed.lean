import DataRequests.Proofs.Outcome

/-!
# Resolved requests are well-formed

`RequestSpec.WellFormed` collects what an emitter relies on in a request. Scanning establishes a part of it, validation the
other, and the reuse between them changes the sources and the handle; the main statement is that every request that is output
is well-formed, whatever is reported beside it.
-/

namespace DataRequests

/-- What an emitter relies on in a resolved request. -/
structure RequestSpec.WellFormed (r : RequestSpec) : Prop where
  /-- Only one of the two kinds of storage is enabled. -/
  storage : ¬(r.sources.isEnabled .database = true ∧ r.sources.isEnabled .keyValueStore = true)
  declared : ∀ kind, r.sources.isDeclared kind = true → r.sources.isEnabled kind = true
  /-- The request has a source of its own, or the handle of another method, or one from the constructor. -/
  intent : (∃ kind, r.sources.isDeclared kind = true) ∨ r.reuses.isSome = true ∨
    r.isController = true ∧ r.boundInConstructor = true
  targets : r.targetsOnly = true → (∃ kind, r.sources.isDeclared kind = true) ∧ r.isController = false
  boundTargets : r.reuses.isSome = true → r.boundInConstructor = true → (∃ kind, r.sources.isDeclared kind = true) →
    r.targetsOnly = true
  delegate : r.sources.isEnabled .keyValueStore = true → r.boundInConstructor = false →
    r.sources.keyValueStore.options.delegateType.isSome = true
  lookup : r.returnKind = .syncLookup →
    r.sources.isEnabled .memory = true ∨ r.sources.isEnabled .database = true ∨ r.sources.isEnabled .keyValueStore = true
  controller : r.isController = true ↔ r.returnKind = .controllerReference
  controllerParameters : r.isController = true → r.parameters = []
  payload : r.payloadBuilder.isSome = true ↔ r.returnKind = .sourceParamsOnly
  payloadKind : ∀ kind, r.payloadBuilder = some kind → kind = .network ∨ kind = .database
  optional : r.optionalBinding = true → r.boundInConstructor = true
  bound : r.boundInConstructor = true → r.isController = true ∨ r.reuses.isSome = true
  /-- The field of the handle has the name of the method that the handle is of. -/
  binding : r.bindingName = r.reuses.getD r.name

/-- A lookup may read memory and the two kinds of storage. -/
theorem SourceKind.isStored_iff (kind : SourceKind) :
    kind.isStored = true ↔ kind = .memory ∨ kind = .database ∨ kind = .keyValueStore := by
  cases kind <;> simp [isStored]

namespace RequestSpec

/-- The handle of a request whose reuse is resolved is that of the method it reuses, or else its own. -/
theorem bindingName_of_resolveReuse {i : Interface} {outer : Defaults} {own r : RequestSpec} (hown : own.Prepared)
    (h : own.resolveReuse (i.pool outer) = .ok r) : r.bindingName = r.reuses.getD r.name := by
  rcases (own.resolveReuse_eq_ok_iff _ r).mp h with ⟨hreuses, rfl⟩ | ⟨target, reference, hreuses, hlookup, -, rfl⟩
  · simp [hreuses, hown.binding]
  · rw [merge_eq]
    simp [hreuses, (Interface.handle_of_lookup hlookup).2.1]

/-- Every declared kind is enabled once the reuse is resolved and the request is valid: scanning enables what is declared, and
with a reuse validation sees to it. -/
theorem declared_of_resolveReuse {own r : RequestSpec} {pool : Pool} (hown : own.Prepared)
    (h : own.resolveReuse pool = .ok r) (hvalid : r.Valid) :
    ∀ kind, r.sources.isDeclared kind = true → r.sources.isEnabled kind = true := by
  rcases (own.resolveReuse_eq_ok_iff pool r).mp h with ⟨-, rfl⟩ | ⟨target, reference, hreuses, -, -, rfl⟩
  · intro kind hkind
    rw [hown.enabled]
    exact hkind
  · exact hvalid.available (by rw [merge_eq]; simp [hreuses])

/-- What preparing a request establishes outlives the resolution of its reuse, and with validation it makes the request
well-formed. -/
theorem wellFormed_of_resolveReuse {i : Interface} {outer : Defaults} {own r : RequestSpec} (hown : own.Prepared)
    (h : own.resolveReuse (i.pool outer) = .ok r) (hvalid : r.Valid) : r.WellFormed := by
  obtain ⟨hkeeps, hdeclared, hbound, hboundOf⟩ := resolveReuse_keeps h
  have hreuses : r.reuses = own.reuses := by rw [hkeeps]
  have hcontroller : r.isController = own.isController := by rw [hkeeps]
  have hkind : r.returnKind = own.returnKind := by rw [hkeeps]
  have hpayload : r.payloadBuilder = own.payloadBuilder := by rw [hkeeps]
  have hdeclares : r.sources.declaresAny = own.sources.declaresAny := SourceConfigs.declaresAny_congr hdeclared
  have hintent := hown.intent
  simp only [← hdeclares, ← hreuses, ← hcontroller] at hintent
  constructor
  case storage =>
    have hstorage := hvalid.storage
    simp only [SourceConfigs.hasConflictingStorage, Bool.and_eq_false_iff] at hstorage
    rintro ⟨hdatabase, hstore⟩
    rcases hstorage with hoff | hoff
    · exact Bool.false_ne_true (hoff.symm.trans hdatabase)
    · exact Bool.false_ne_true (hoff.symm.trans hstore)
  case declared => exact declared_of_resolveReuse hown h hvalid
  case intent =>
    rw [← SourceConfigs.declaresAny_iff]
    rcases hintent with hany | hreuse | ⟨hc, hb⟩
    · exact Or.inl hany
    · exact Or.inr (Or.inl hreuse)
    · exact Or.inr (Or.inr ⟨hc, hbound hb⟩)
  case targets =>
    intro htargets
    exact ⟨(SourceConfigs.declaresAny_iff _).mp (hvalid.targets htargets), hvalid.controller htargets⟩
  case boundTargets =>
    intro hreuse hb hany
    exact hvalid.targeted hreuse hb ((SourceConfigs.declaresAny_iff _).mpr hany)
  case delegate => exact hvalid.delegate
  case lookup =>
    intro hlookup
    obtain ⟨kind, hstored, henabled⟩ := hvalid.lookup hlookup
    rcases (SourceKind.isStored_iff kind).mp hstored with rfl | rfl | rfl
    · exact Or.inl henabled
    · exact Or.inr (Or.inl henabled)
    · exact Or.inr (Or.inr henabled)
  case controller =>
    rw [hcontroller, hkind]
    exact hown.controller
  case controllerParameters =>
    rw [hkeeps]
    exact hown.parameters
  case payload =>
    rw [hpayload, hkind]
    exact hown.payload
  case payloadKind =>
    rw [hpayload]
    exact hown.payloadKind
  case optional =>
    have hoptional : r.optionalBinding = own.optionalBinding := by rw [hkeeps]
    rw [hoptional]
    exact fun ho => hbound (hown.optional ho)
  case bound =>
    intro hb
    rw [hcontroller, hreuses]
    exact (hboundOf hb).imp_left hown.bound
  case binding => exact bindingName_of_resolveReuse hown h

end RequestSpec

/-- Every request in the resolved methods of an interface is well-formed, whatever the defaults and whatever is reported. -/
theorem requests_wellFormed (i : Interface) (outer : Defaults) :
    ∀ r ∈ (i.resolve outer).1.requests, r.WellFormed := by
  intro r hr
  obtain ⟨own, hown, hresolve, hvalid⟩ := Interface.origin_of_mem_requests hr
  exact RequestSpec.wellFormed_of_resolveReuse hown hresolve hvalid

/-- A handle from the constructor, and two methods that use it with a source of their own: one as a target, and one that leaves
the targets out and is reported. -/
def boundItems : Interface where
  name := "Items"
  methods :=
    [{ name := "items", returnType := .wrapping .controller "Item", markers := [.controllerReference { optional := true }] },
     { name := "getItem", returnType := .wrapping .request "Item", markers := [.reuse "items", .targets, .network {}] },
     { name := "getItemAgain", returnType := .wrapping .request "Item", markers := [.reuse "items", .network {}] }]

/-- The targeted method is well-formed beside the one that is reported. -/
theorem boundItems_wellFormed :
    (boundItems.resolve {}).2 =
        [⟨"Items", "getItemAgain", .bindingConflict (.untargetedSources "items")⟩] ∧
      ∃ r ∈ (boundItems.resolve {}).1.requests, r.name = "getItem" ∧ r.boundInConstructor = true ∧ r.WellFormed := by
  obtain ⟨r, hr, hname, hbound⟩ : ∃ r ∈ (boundItems.resolve {}).1.requests,
      r.name = "getItem" ∧ r.boundInConstructor = true := by decide
  exact ⟨by decide, r, hr, hname, hbound, requests_wellFormed boundItems {} r hr⟩

end DataRequests
