import DataRequests.Proofs.Definitions
import DataRequests.Proofs.Pool
import DataRequests.Proofs.Reuse

/-!
# What comes of a method

The specs and the errors of an interface, told method by method: they are collected from the first definitions in the order of
declaration, so that the first method of a name decides alone what is output under the name and, beside the repetitions, what is
reported against it (`Interface.outcome_eq`).
-/

namespace DataRequests

/-! ## A request beside the others -/

namespace RequestSpec

/-- A request comes to a spec exactly when its reuse resolves to it and it is valid. -/
theorem finish_eq_ok_iff (own : RequestSpec) (pool : Pool) (r : RequestSpec) :
    own.finish pool = .ok r ↔ own.resolveReuse pool = .ok r ∧ r.Valid := by
  unfold finish
  split
  · rename_i h
    simp [h]
  · rename_i spec h
    rw [validate_eq_ok_iff, h, Except.ok.injEq]

end RequestSpec

/-- An entry has a spec exactly when it is no repetition, its method is prepared and the rest goes well. -/
theorem Entry.spec?_eq_some_iff (e : Entry) (d : Defaults) (pool : Pool) (r : RequestSpec) :
    e.spec? d pool = some r ↔
      e.isRepeated = false ∧ ∃ own, e.method.prepare d = .ok own ∧ own.finish pool = .ok r := by
  unfold Entry.spec? Entry.outcome?
  cases e.method.prepare d with
  | error faults => simp
  | ok own => cases e.isRepeated <;> cases hfinish : own.finish pool <;> simp [hfinish]

/-- The spec of an entry has the name of its method. -/
theorem Entry.name_of_spec? {e : Entry} {d : Defaults} {pool : Pool} {r : RequestSpec} (h : e.spec? d pool = some r) :
    r.name = e.method.name := by
  obtain ⟨-, own, hprepare, hfinish⟩ := (e.spec?_eq_some_iff d pool r).mp h
  rw [(RequestSpec.resolveReuse_keeps ((own.finish_eq_ok_iff pool r).mp hfinish).1).1]
  exact (Method.scan_name_reuses ((e.method.prepare_eq_ok_iff d own).mp hprepare).1).1

/-- The spec of a params provider has the name of its method. -/
theorem Entry.name_of_provider? {e : Entry} {requests : List Method} {p : ProviderSpec}
    (h : e.provider? requests = some p) : p.name = e.method.name := by
  unfold Entry.provider? Method.resolveProvider at h
  split at h
  · cases h
  · dsimp only at h
    split at h
    · cases h
      rfl
    · cases h

namespace Interface

variable (i : Interface) (outer : Defaults)

/-! ## Specs -/

/-- The spec that a method has when it is the first of its name. -/
def resolved? (m : Method) : Option RequestSpec :=
  Entry.spec? (i.defaults outer) (i.pool outer) ⟨m, false⟩

/-- The spec that a params provider has when it is the first of its name. -/
def provided? (m : Method) : Option ProviderSpec :=
  Entry.provider? i.requestMethods ⟨m, false⟩

/-- A method has a spec exactly when it is prepared and the rest goes well. -/
theorem resolved?_eq_some_iff (m : Method) (r : RequestSpec) :
    i.resolved? outer m = some r ↔
      ∃ own, m.prepare (i.defaults outer) = .ok own ∧ own.resolveReuse (i.pool outer) = .ok r ∧ r.Valid := by
  simp [resolved?, Entry.spec?_eq_some_iff, RequestSpec.finish_eq_ok_iff]

/-- The requests in the output are the specs of the first definitions that are requests, in the order of declaration. -/
theorem spec_requests_eq :
    (i.spec outer).requests = (i.definitions.filter (·.isRequest)).filterMap (i.resolved? outer) := by
  show i.requests.filterMap (·.spec? (i.defaults outer) (i.pool outer)) = _
  rw [requests_eq]
  refine i.filterMap_entries (·.isRequest) (·.spec? (i.defaults outer) (i.pool outer)) fun e he => ?_
  cases hspec : e.spec? (i.defaults outer) (i.pool outer) with
  | none => rfl
  | some r => exact absurd (((e.spec?_eq_some_iff _ _ r).mp hspec).1.symm.trans he) Bool.false_ne_true

/-- The params providers in the output are the specs of the other first definitions, in the order of declaration. -/
theorem spec_providers_eq :
    (i.spec outer).providers = (i.definitions.filter (!·.isRequest)).filterMap i.provided? := by
  show i.providers.filterMap (·.provider? i.requestMethods) = _
  rw [providers_eq]
  exact i.filterMap_entries (!·.isRequest) (·.provider? i.requestMethods) fun e he => by simp [Entry.provider?, he]

/-- Of what the first definitions with a condition give, what has a name is given by the first method of the name, if it meets the
condition. -/
theorem filter_filterMap_definitions {β : Type} (c : Method → Bool) {f : Method → Option β} {nameOf : β → String}
    (hname : ∀ m b, f m = some b → nameOf b = m.name) (name : String) :
    ((i.definitions.filter c).filterMap f).filter (nameOf · = name) = (((i.first? name).filter c).bind f).toList := by
  have hagree : ∀ m b, f m = some b → decide (nameOf b = name) = decide (m.name = name) := by
    intro m b h
    rw [hname m b h]
  rw [filter_filterMap_of_agree hagree, List.filter_comm, filter_definitions]
  cases i.first? name with
  | none => rfl
  | some m => cases hc : c m <;> cases hf : f m <;> simp [Option.filter, hc, hf]

/-- What the first definitions with a condition give is what is found there under their names. -/
theorem filterMap_definitions_eq_lookup {β : Type} (c : Method → Bool) {f : Method → Option β} {nameOf : β → String}
    (hname : ∀ m b, f m = some b → nameOf b = m.name) :
    (i.definitions.filter c).filterMap f =
      i.definitions.filterMap fun m => ((i.definitions.filter c).filterMap f).find? (nameOf · = m.name) := by
  conv_lhs => rw [List.filterMap_filter]
  apply List.filterMap_congr
  intro m hm
  rw [← List.head?_filter, i.filter_filterMap_definitions c hname, i.mem_definitions.mp hm]
  cases hc : c m <;> simp [Option.filter, hc]

/-- What is output under a name is the spec of the first method of the name, if that is a request and has one. -/
theorem filter_spec_requests (name : String) :
    (i.spec outer).requests.filter (·.name = name) =
      (((i.first? name).filter (·.isRequest)).bind (i.resolved? outer)).toList := by
  rw [spec_requests_eq]
  exact i.filter_filterMap_definitions (·.isRequest) (fun _ _ h => Entry.name_of_spec? h) name

/-- The params provider that is output under a name is the spec of the first method of the name, if that is no request and has
one. -/
theorem filter_spec_providers (name : String) :
    (i.spec outer).providers.filter (·.name = name) =
      (((i.first? name).filter (!·.isRequest)).bind i.provided?).toList := by
  rw [spec_providers_eq]
  exact i.filter_filterMap_definitions (!·.isRequest) (fun _ _ h => Entry.name_of_provider? h) name

/-- A spec is output exactly when it is that of the first method of its name, which is a request. -/
theorem mem_spec_requests (r : RequestSpec) :
    r ∈ (i.spec outer).requests ↔
      ∃ m, i.first? r.name = some m ∧ m.isRequest = true ∧ i.resolved? outer m = some r := by
  have hfilter : r ∈ (i.spec outer).requests ↔ r ∈ (i.spec outer).requests.filter (·.name = r.name) := by
    simp
  rw [hfilter, filter_spec_requests]
  simp [Option.bind_eq_some_iff, Option.filter_eq_some_iff, and_assoc]

variable {i outer} in
/-- Every request in the output is a prepared one with its reuse resolved, and it is valid. -/
theorem origin_of_mem_requests {r : RequestSpec} (hr : r ∈ (i.spec outer).requests) :
    ∃ own : RequestSpec, own.Prepared ∧ own.resolveReuse (i.pool outer) = .ok r ∧ r.Valid := by
  obtain ⟨m, -, -, hresolved⟩ := (i.mem_spec_requests outer r).mp hr
  obtain ⟨own, hprepare, hresolve, hvalid⟩ := (i.resolved?_eq_some_iff outer m r).mp hresolved
  exact ⟨own, Method.prepared_of_prepare hprepare, hresolve, hvalid⟩

/-! ## Errors -/

/-- Everything that is wrong with a request, whether in its declaration or beside the others. -/
def requestFaults (m : Method) : List Fault :=
  Entry.scanFaults (i.defaults outer) ⟨m, false⟩ ++ Entry.finishFaults (i.defaults outer) (i.pool outer) ⟨m, false⟩

/-- Everything that is wrong with a method that is the first of its name. -/
def methodFaults (m : Method) : List Fault :=
  if m.isRequest then i.requestFaults outer m else Entry.providerFaults i.requestMethods ⟨m, false⟩

/-- Repeated definitions are reported as such. -/
theorem fault_of_mem_repeatErrors {i : Interface} {x : ResolutionError} (h : x ∈ i.repeatErrors) :
    x.fault = .duplicateMethod := by
  rw [repeatErrors_eq] at h
  obtain ⟨m, -, rfl⟩ := List.mem_map.mp h
  rfl

/-- What is declared wrongly is reported of the first definitions that are requests. -/
theorem scanErrors_eq :
    i.scanErrors outer = (i.definitions.filter (·.isRequest)).flatMap fun m =>
      i.errors m.name (Entry.scanFaults (i.defaults outer) ⟨m, false⟩) := by
  unfold scanErrors
  rw [requests_eq]
  refine i.flatMap_entries (·.isRequest) (fun e => i.errors e.method.name (e.scanFaults (i.defaults outer))) fun e he => ?_
  unfold Entry.scanFaults
  split <;> simp [he, errors]

/-- What is wrong beside the other methods is reported of the first definitions that are requests. -/
theorem finishErrors_eq :
    i.finishErrors outer = (i.definitions.filter (·.isRequest)).flatMap fun m =>
      i.errors m.name (Entry.finishFaults (i.defaults outer) (i.pool outer) ⟨m, false⟩) := by
  unfold finishErrors
  rw [requests_eq]
  refine i.flatMap_entries (·.isRequest)
    (fun e => i.errors e.method.name (e.finishFaults (i.defaults outer) (i.pool outer))) fun e he => ?_
  unfold Entry.finishFaults Entry.outcome?
  cases e.method.prepare (i.defaults outer) <;> simp [he, errors]

/-- What is wrong with params providers is reported of the first definitions that are no requests. -/
theorem providerErrors_eq :
    i.providerErrors = (i.definitions.filter (!·.isRequest)).flatMap fun m =>
      i.errors m.name (Entry.providerFaults i.requestMethods ⟨m, false⟩) := by
  unfold providerErrors
  rw [providers_eq]
  exact i.flatMap_entries (!·.isRequest) (fun e => i.errors e.method.name (e.providerFaults i.requestMethods))
    fun e he => by simp [Entry.providerFaults, he, errors]

/-- The errors against a name, of those that are reported of the first definitions with a condition, are those of the first method
of the name, if it meets the condition. -/
theorem filter_block (c : Method → Bool) (f : Method → List Fault) (name : String) :
    ((i.definitions.filter c).flatMap fun m => i.errors m.name (f m)).filter (·.method = name) =
      i.errors name ((((i.first? name).filter c).map f).getD []) := by
  have hnil : ∀ m ∈ i.definitions.filter c, decide (m.name = name) = false →
      (i.errors m.name (f m)).filter (·.method = name) = [] := by
    intro m _ hm
    have hne : m.name ≠ name := of_decide_eq_false hm
    simp [errors, hne, List.filter_map, Function.comp_def]
  rw [List.filter_flatMap, ← flatMap_filter_of_nil hnil, List.filter_comm, filter_definitions]
  cases hfirst : i.first? name with
  | none => rfl
  | some m =>
    have hm : m.name = name := name_of_first? hfirst
    cases hc : c m <;> simp [errors, hc, hm, Option.filter, List.filter_map, Function.comp_def]

/-- The errors against a name: its repetitions, and what is wrong with its first method. -/
theorem filter_allErrors_name (name : String) :
    (i.allErrors outer).filter (·.method = name) =
      i.repeatErrors.filter (·.method = name) ++
        i.errors name (((i.first? name).map (i.methodFaults outer)).getD []) := by
  -- of the other three blocks either the providers' is empty under the name or the two of the requests are
  unfold allErrors
  simp only [List.filter_append]
  rw [scanErrors_eq, finishErrors_eq, providerErrors_eq]
  simp only [filter_block, List.append_assoc]
  cases i.first? name with
  | none => rfl
  | some m => cases hm : m.isRequest <;> simp [methodFaults, requestFaults, errors, hm, Option.filter]

/-- The errors against the name of a first definition that is a request: its repetitions, and what is wrong with the request. -/
theorem filter_allErrors {m : Method} (hfirst : i.first? m.name = some m) (hrequest : m.isRequest = true) :
    (i.allErrors outer).filter (·.method = m.name) =
      i.repeatErrors.filter (·.method = m.name) ++ i.errors m.name (i.requestFaults outer m) := by
  rw [filter_allErrors_name, hfirst]
  simp [methodFaults, hrequest]

/-! ## Outcomes -/

end Interface

/-- What is output under a name and reported against it. -/
structure Outcome where
  requests : List RequestSpec
  providers : List ProviderSpec
  errors : List ResolutionError
  deriving DecidableEq, Repr

namespace Interface

variable (i : Interface) (outer : Defaults)

/-- What an interface outputs under a name and reports against it. -/
def outcome (name : String) : Outcome where
  requests := (i.resolve outer).1.requests.filter (·.name = name)
  providers := (i.resolve outer).1.providers.filter (·.name = name)
  errors := (i.resolve outer).2.filter (·.method = name)

/-- What comes of a name is what comes of its first method, and the repetitions. -/
theorem outcome_eq (name : String) :
    i.outcome outer name =
      { requests := (((i.first? name).filter (·.isRequest)).bind (i.resolved? outer)).toList
        providers := (((i.first? name).filter (!·.isRequest)).bind i.provided?).toList
        errors := i.repeatErrors.filter (·.method = name) ++
          i.errors name (((i.first? name).map (i.methodFaults outer)).getD []) } := by
  rw [← filter_spec_requests, ← filter_spec_providers i outer, ← filter_allErrors_name]
  rfl

end Interface

end DataRequests
