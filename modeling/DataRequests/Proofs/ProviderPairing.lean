import DataRequests.Proofs.Accounts
import DataRequests.Proofs.Agreement
import DataRequests.Proofs.SpecialRoles

/-!
# Params providers and their targets

A params provider is output exactly when its return type offers a payload, none of its special roles is played twice, and its target
is a request that queries by the same names in the same order (`Interface.Pairs`). Otherwise each of the three is reported that fails,
in this order (`provider_output_iff_pairs`).
-/

namespace DataRequests

/-! ## The payload -/

/-- A return type offers source parameters of a kind: its first capability of source parameters names the kind, the network where it
names none, and a payload can be built for it. -/
def TypeExpr.Offers (t : TypeExpr) (kind : SourceKind) : Prop :=
  (∃ payload, t.capabilities.find? (·.isSourceParams) = some (.sourceParams payload) ∧ payload.getD .network = kind) ∧
    (kind = .network ∨ kind = .database)

/-- What the first capability with a value gives is given by the first capability of source parameters, if only these have one. -/
theorem findSome?_sourceParams {α : Type} {f : Capability → Option α} (hf : ∀ c, (f c).isSome = c.isSourceParams)
    (capabilities : List Capability) :
    capabilities.findSome? f = (capabilities.find? (·.isSourceParams)).bind f := by
  induction capabilities with
  | nil => rfl
  | cons c rest ih =>
    cases hc : f c with
    | none =>
      have hno : c.isSourceParams = false := by rw [← hf c, hc]; rfl
      simp [hc, hno, ih]
    | some a =>
      have hyes : c.isSourceParams = true := by rw [← hf c, hc]; rfl
      simp [hc, hyes]

/-- A provider has the kind of payload that its return type offers. -/
theorem TypeExpr.providedKind?_eq_some_iff (t : TypeExpr) (kind : SourceKind) : t.providedKind? = some kind ↔ t.Offers kind := by
  unfold providedKind? Offers
  rw [findSome?_sourceParams (fun c => by cases c <;> rfl), Option.filter_eq_some_iff, SourceKind.hasPayload_iff,
    Option.bind_eq_some_iff]
  refine and_congr_left fun _ => ?_
  constructor
  · rintro ⟨c, hfind, hkind⟩
    cases c with
    | sourceParams payload => exact ⟨payload, hfind, by simpa using hkind⟩
    | _ => cases hkind
  · rintro ⟨payload, hfind, hkind⟩
    exact ⟨.sourceParams payload, hfind, by simpa using hkind⟩

namespace Method

variable (p : Method)

/-- What is reported of the return type of a provider. -/
inductive PayloadVerdict : List Fault → Prop where
  | offered (kind : SourceKind) (h : p.returnType.Offers kind) : PayloadVerdict []
  | lacking (h : ∀ kind, ¬p.returnType.Offers kind) :
      PayloadVerdict
        [.invalidReturnType p.returnType.render "a params provider must return network or database source params"]

/-- The verdict on a return type is the one that resolution comes to. -/
theorem payloadVerdict : p.PayloadVerdict p.providedKindFaults := by
  unfold providedKindFaults
  split
  · rename_i kind hkind
    exact .offered kind ((p.returnType.providedKind?_eq_some_iff kind).mp hkind)
  · rename_i hnone
    refine .lacking fun kind hoffers => ?_
    rw [(p.returnType.providedKind?_eq_some_iff kind).mpr hoffers] at hnone
    cases hnone

/-- Nothing is reported of a return type exactly when it offers a payload. -/
theorem PayloadVerdict.eq_nil_iff {p : Method} {faults : List Fault} (h : p.PayloadVerdict faults) :
    faults = [] ↔ ∃ kind, p.returnType.Offers kind := by
  cases h with
  | offered kind hoffers => exact iff_of_true rfl ⟨kind, hoffers⟩
  | lacking hno => exact iff_of_false (List.cons_ne_nil _ _) fun ⟨kind, hoffers⟩ => hno kind hoffers

/-! ## Special roles -/

/-- Several parameters of a method play a special role. -/
def RepeatsRole (role : SpecialRole) : Prop :=
  1 < p.resolvedParameters.countP role.isPlayedBy

instance (role : SpecialRole) : Decidable (p.RepeatsRole role) :=
  inferInstanceAs (Decidable (_ < _))

/-- A fault for each special role that several parameters play, with the names of these. -/
def roleFaults : List Fault :=
  (SpecialRole.all.filter fun role => p.RepeatsRole role).map fun role =>
    .duplicateSpecialParameter role.name (role.players p.resolvedParameters)

/-- The faults of special parameters are those of the repeated roles. -/
theorem specialParameterFaults_eq : specialParameterFaults p.resolvedParameters = p.roleFaults :=
  specialParameterFaults_eq_map p.resolvedParameters

/-- No role is reported exactly when none is repeated. -/
theorem roleFaults_eq_nil_iff : p.roleFaults = [] ↔ ∀ role, ¬p.RepeatsRole role := by
  simp [roleFaults, List.filter_eq_nil_iff, SpecialRole.mem_all]

/-! ## The target -/

/-- The outside names of the parameters by which a method queries the sources, in order. -/
def queriedNames (m : Method) : List String :=
  (m.parameters.filter (·.role = .query)).map (·.outsideName)

/-- The names that two methods are compared by are those of their declared query parameters. -/
theorem queryNames_resolvedParameters : queryNames p.resolvedParameters = p.queriedNames := by
  rw [queryNames, resolvedParameters, queriedNames, List.filter_map, List.map_map]
  exact congrArg _ (List.filter_congr fun q _ => rfl)

end Method

namespace Interface

variable (i : Interface) (p : Method) (target : String)

/-- The first method of a name is a request, and so a params provider may be for it. -/
def IsTarget (request : Method) : Prop :=
  i.first? target = some request ∧ request.isRequest = true

/-- What is reported of a provider beside its target. -/
inductive TargetVerdict : List Fault → Prop where
  | matching (request : Method) (h : i.IsTarget target request) (hnames : request.queriedNames = p.queriedNames) :
      TargetVerdict []
  | mismatched (request : Method) (h : i.IsTarget target request) (hnames : request.queriedNames ≠ p.queriedNames) :
      TargetVerdict [.providerShapeMismatch target request.queriedNames p.queriedNames]
  | unknown (h : ∀ request, ¬i.IsTarget target request) : TargetVerdict [.unknownProviderTarget target]

/-- The requests that a provider may be for are looked up under the target's name. -/
theorem find?_requestMethods_eq_some_iff (request : Method) :
    i.requestMethods.find? (·.name = target) = some request ↔ i.IsTarget target request := by
  rw [find?_requestMethods, Option.filter_eq_some_iff, IsTarget]

/-- The verdict on a provider and its target is the one that resolution comes to. -/
theorem targetVerdict : i.TargetVerdict p target (p.targetFaults target i.requestMethods) := by
  unfold Method.targetFaults
  split
  · rename_i hnone
    refine .unknown fun request htarget => ?_
    rw [(i.find?_requestMethods_eq_some_iff target request).mpr htarget] at hnone
    cases hnone
  · rename_i request hfind
    have htarget := (i.find?_requestMethods_eq_some_iff target request).mp hfind
    simp only [Method.queryNames_resolvedParameters]
    split
    · rename_i hnames
      exact .matching request htarget hnames
    · rename_i hnames
      exact .mismatched request htarget hnames

variable {i p target} in
/-- Nothing is reported beside the target exactly when the target is a request that queries by the same names. -/
theorem TargetVerdict.eq_nil_iff {faults : List Fault} (h : i.TargetVerdict p target faults) :
    faults = [] ↔ ∃ request, i.IsTarget target request ∧ request.queriedNames = p.queriedNames := by
  cases h with
  | matching request htarget hnames => exact iff_of_true rfl ⟨request, htarget, hnames⟩
  | mismatched request htarget hnames =>
    refine iff_of_false (List.cons_ne_nil _ _) fun ⟨other, hother, hsame⟩ => hnames ?_
    rw [Option.some.inj (htarget.1.symm.trans hother.1), hsame]
  | unknown hno => exact iff_of_false (List.cons_ne_nil _ _) fun ⟨request, htarget, _⟩ => hno request htarget

/-! ## Pairing -/

/-- A params provider fits its target, and its declaration is in order. -/
structure Pairs : Prop where
  payload : ∃ kind, p.returnType.Offers kind
  roles : ∀ role, ¬p.RepeatsRole role
  queries : ∃ request, i.IsTarget target request ∧ request.queriedNames = p.queriedNames

/-- Nothing is wrong with a provider exactly when it fits its target. -/
theorem providerFaults_eq_nil_iff_pairs : p.providerFaults target i.requestMethods = [] ↔ i.Pairs p target := by
  rw [Method.providerFaults, Method.specialParameterFaults_eq, List.append_eq_nil_iff, List.append_eq_nil_iff,
    p.payloadVerdict.eq_nil_iff, p.roleFaults_eq_nil_iff, (i.targetVerdict p target).eq_nil_iff]
  constructor
  · rintro ⟨⟨hpayload, hroles⟩, hqueries⟩
    exact ⟨hpayload, hroles, hqueries⟩
  · intro h
    exact ⟨⟨h.payload, h.roles⟩, h.queries⟩

variable {p target}

/-- A provider that fits its target is resolved to what it declares. -/
theorem resolveProvider_of_pairs (htarget : p.providerTarget = some target) (h : i.Pairs p target) {kind : SourceKind}
    (hkind : p.returnType.Offers kind) :
    p.resolveProvider i.requestMethods = .ok ⟨p.name, target, kind, p.returnType.render, p.resolvedParameters⟩ := by
  have hfaults := (i.providerFaults_eq_nil_iff_pairs p target).mpr h
  have hprovided := (p.returnType.providedKind?_eq_some_iff kind).mpr hkind
  simp [Method.resolveProvider, htarget, hprovided, hfaults]

/-- A provider that does not fit its target is refused for everything that is wrong with it. -/
theorem resolveProvider_of_not_pairs (htarget : p.providerTarget = some target) (h : ¬i.Pairs p target) :
    p.resolveProvider i.requestMethods = .error (p.providerFaults target i.requestMethods) := by
  have hfaults := mt (i.providerFaults_eq_nil_iff_pairs p target).mp h
  unfold Method.resolveProvider
  simp only [htarget, Option.getD_some]
  split
  · rename_i hnil
    exact absurd hnil hfaults
  · rfl

/-- What is wrong with a provider is what is wrong with its payload, its roles and its target, whether or not it is output. -/
theorem providerFaults_of_target (htarget : p.providerTarget = some target) :
    Entry.providerFaults i.requestMethods ⟨p, false⟩ = p.providerFaults target i.requestMethods := by
  by_cases h : i.Pairs p target
  · obtain ⟨kind, hkind⟩ := h.payload
    simp [Entry.providerFaults, i.resolveProvider_of_pairs htarget h hkind, (i.providerFaults_eq_nil_iff_pairs p target).mpr h]
  · simp [Entry.providerFaults, i.resolveProvider_of_not_pairs htarget h]

end Interface

/-- A params provider that is the first method of its name is output exactly when it fits its target, and then once, as what it
declares. What is reported against its name, beside later methods of the name, is what is wrong with its return type, each special
role that several of its parameters play, and what is wrong beside its target, in this order; it is never output as a request. -/
theorem provider_output_iff_pairs (i : Interface) (outer : Defaults) {p : Method} {target : String}
    (hfirst : i.first? p.name = some p) (htarget : p.providerTarget = some target) :
    ((∃ spec ∈ (i.resolve outer).1.providers, spec.name = p.name) ↔ i.Pairs p target) ∧
    (∀ kind, i.Pairs p target → p.returnType.Offers kind →
      (i.outcome outer p.name).providers = [⟨p.name, target, kind, p.returnType.render, p.resolvedParameters⟩]) ∧
    (i.outcome outer p.name).requests = [] ∧
    ∃ ofPayload ofTarget, p.PayloadVerdict ofPayload ∧ i.TargetVerdict p target ofTarget ∧
      (i.outcome outer p.name).errors.filter (·.fault ≠ .duplicateMethod) =
        i.errors p.name (ofPayload ++ p.roleFaults ++ ofTarget) := by
  have hprovider : p.isRequest = false := by simp [Method.isRequest, htarget]
  have hproviders : (i.outcome outer p.name).providers = (i.provided? p).toList := by
    simp [Interface.outcome_eq, hfirst, Option.filter, hprovider]
  have hpaired : ∀ kind, i.Pairs p target → p.returnType.Offers kind →
      (i.outcome outer p.name).providers = [⟨p.name, target, kind, p.returnType.render, p.resolvedParameters⟩] := by
    intro kind hpairs hkind
    simp [hproviders, Interface.provided?, Entry.provider?, i.resolveProvider_of_pairs htarget hpairs hkind, Except.toOption]
  have hunpaired : ¬i.Pairs p target → (i.outcome outer p.name).providers = [] := by
    intro hno
    simp [hproviders, Interface.provided?, Entry.provider?, i.resolveProvider_of_not_pairs htarget hno, Except.toOption]
  refine ⟨?_, hpaired, by simp [Interface.outcome_eq, hfirst, Option.filter, hprovider], ?_⟩
  · have houtput : (∃ spec ∈ (i.resolve outer).1.providers, spec.name = p.name) ↔ (i.outcome outer p.name).providers ≠ [] := by
      simp [Interface.outcome, List.filter_eq_nil_iff]
    rw [houtput]
    constructor
    · intro hne
      by_contra hno
      exact hne (hunpaired hno)
    · intro hpairs
      obtain ⟨kind, hkind⟩ := hpairs.payload
      rw [hpaired kind hpairs hkind]
      exact List.cons_ne_nil _ _
  · refine ⟨p.providedKindFaults, p.targetFaults target i.requestMethods, p.payloadVerdict, i.targetVerdict p target, ?_⟩
    rw [Interface.filter_errors_outcome hfirst, Interface.methodFaults, if_neg (by simp [hprovider]),
      i.providerFaults_of_target htarget, Method.providerFaults, Method.specialParameterFaults_eq]

/-- A plain parameter. -/
def Parameter.plain (name : String) (tags : List ParameterTag) : Parameter :=
  { name := name, type := { name := "String" }, tags := tags }

/-- A request with two queries, one of which has another name outside, and a callback between them. -/
def pagedItems : Method where
  name := "items"
  returnType := .wrapping .request "Item"
  parameters :=
    [.plain "id" [], { name := "onResult", type := { name := "Callback", capabilities := [.callback] } },
     .plain "storeId" [.rename "store"]]
  markers := [.database {}]

/-- A params provider that queries by the same names. -/
def pagedParams : Method where
  name := "itemsParams"
  returnType := .wrapping (.sourceParams (some .database)) "Item"
  parameters := [.plain "id" [], .plain "store" []]
  markers := [.paramsProvider "items"]

/-- A params provider for another one, without a payload to offer and with two bodies for the network. -/
def strayParams : Method where
  name := "strayParams"
  returnType := .wrapping (.sourceParams (some .memory)) "Item"
  parameters := [.plain "first" [.payload .network], .plain "second" [.payload .network]]
  markers := [.paramsProvider "itemsParams"]

/-- A request and the two params providers. -/
def pagedInterface : Interface where
  name := "Items"
  methods := [strayParams, pagedParams, pagedItems]

/-- The first provider fits the request, which comes after it; all three things are wrong with the other one. -/
theorem pagedInterface_providers :
    (pagedInterface.outcome {} "itemsParams").providers =
      [⟨"itemsParams", "items", .database, "Result<Item>", pagedParams.resolvedParameters⟩] ∧
    (¬∃ spec ∈ (pagedInterface.resolve {}).1.providers, spec.name = "strayParams") ∧
    (pagedInterface.resolve {}).2 =
      [⟨"Items", "strayParams",
          .invalidReturnType "Result<Item>" "a params provider must return network or database source params"⟩,
        ⟨"Items", "strayParams", .duplicateSpecialParameter "network payload" ["first", "second"]⟩,
        ⟨"Items", "strayParams", .unknownProviderTarget "itemsParams"⟩] := by
  have hpairs : pagedInterface.Pairs pagedParams "items" :=
    { payload := ⟨.database, ⟨some .database, rfl, rfl⟩, Or.inr rfl⟩
      roles := pagedParams.roleFaults_eq_nil_iff.mp (by decide)
      queries := ⟨pagedItems, ⟨rfl, rfl⟩, by decide⟩ }
  have hoffers : pagedParams.returnType.Offers .database := ⟨⟨some .database, rfl, rfl⟩, Or.inr rfl⟩
  have hstray : ¬pagedInterface.Pairs strayParams "itemsParams" := by
    rintro ⟨-, hroles, -⟩
    exact hroles (.payload .network) (by decide)
  refine ⟨?_, ?_, by decide⟩
  · exact (provider_output_iff_pairs pagedInterface {} (p := pagedParams) rfl rfl).2.1 .database hpairs hoffers
  · exact mt (provider_output_iff_pairs pagedInterface {} (p := strayParams) rfl rfl).1.mp hstray

end DataRequests
