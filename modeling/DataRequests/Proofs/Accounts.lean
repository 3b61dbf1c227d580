import DataRequests.Proofs.Stages

/-!
# Every method is accounted for

Resolution drops no method silently: a method that is the first of its name is output, or something is reported against it, and a
later one is reported as a repetition (`Interface.Accounted`). It rests on the stages explaining what they refuse, and on nothing
being collected from the repetitions.
-/

namespace DataRequests

namespace Interface

variable (i : Interface) (outer : Defaults)

/-! ## Blocks -/

/-- The methods of which a stage reports something, in the order of declaration. -/
def stageMethods : Stage → List Method
  | .repetition => i.repetitions
  | .declaration | .combination => i.definitions.filter (·.isRequest)
  | .provision => i.definitions.filter (!·.isRequest)

/-- What a stage finds wrong with a method. -/
def stageFaults (m : Method) : Stage → List Fault
  | .repetition => [.duplicateMethod]
  | .declaration => Entry.scanFaults (i.defaults outer) ⟨m, false⟩
  | .combination => Entry.finishFaults (i.defaults outer) (i.pool outer) ⟨m, false⟩
  | .provision => Entry.providerFaults i.requestMethods ⟨m, false⟩

/-- The errors that a stage reports, method by method. -/
def block (stage : Stage) : List ResolutionError :=
  (i.stageMethods stage).flatMap fun m => i.errors m.name (i.stageFaults outer m stage)

/-- The first block is that of the repeated names. -/
theorem block_repetition : i.block outer .repetition = i.repeatErrors := by
  rw [repeatErrors_eq, List.map_eq_flatMap]
  rfl

/-- The errors of an interface are the blocks of the stages, one after the other. -/
theorem allErrors_eq_blocks : i.allErrors outer = Stage.all.flatMap (i.block outer) := by
  rw [allErrors, ← block_repetition i outer, scanErrors_eq, finishErrors_eq, providerErrors_eq]
  simp [Stage.all, block, stageMethods, stageFaults]

/-- The methods of a stage are in the order of declaration. -/
theorem stageMethods_sublist (stage : Stage) : (i.stageMethods stage).Sublist i.methods := by
  have hdefinitions : i.definitions.Sublist i.methods := i.map_method_filter_sublist _
  cases stage with
  | repetition => exact i.map_method_filter_sublist _
  | declaration => exact List.filter_sublist.trans hdefinitions
  | combination => exact List.filter_sublist.trans hdefinitions
  | provision => exact List.filter_sublist.trans hdefinitions

variable {i outer} {m : Method}

/-- What a stage finds wrong with a method is of its own kinds. -/
theorem finds_of_mem_stageFaults {stage : Stage} {fault : Fault} (h : fault ∈ i.stageFaults outer m stage) :
    stage.finds fault = true := by
  cases stage with
  | repetition =>
    rw [List.mem_singleton.mp h]
    rfl
  | declaration =>
    simp only [stageFaults, Entry.scanFaults] at h
    split at h
    · rename_i faults hprepare
      exact (m.prepare_explained _ faults hprepare).2 fault (by simpa using h)
    · cases h
  | combination =>
    simp only [stageFaults, Entry.finishFaults] at h
    split at h
    · rename_i faults houtcome
      unfold Entry.outcome? at houtcome
      split at houtcome
      · cases houtcome
      · rename_i own hprepare
        have hfinish : own.finish (i.pool outer) = .error faults := by simpa using houtcome
        exact (own.finish_explained _ faults hfinish).2 fault h
    · cases h
  | provision =>
    simp only [stageFaults, Entry.providerFaults, Bool.false_eq_true, if_false] at h
    split at h
    · rename_i faults hresolve
      exact (m.resolveProvider_explained _ faults hresolve).2 fault h
    · cases h

/-- The faults of a first definition are not that it is repeated. -/
theorem ne_duplicateMethod_of_mem_methodFaults {fault : Fault} (h : fault ∈ i.methodFaults outer m) :
    fault ≠ .duplicateMethod := by
  rintro rfl
  have hstage : ∃ stage ≠ Stage.repetition, Fault.duplicateMethod ∈ i.stageFaults outer m stage := by
    unfold methodFaults requestFaults at h
    split at h
    · rcases List.mem_append.mp h with hscan | hfinish
      · exact ⟨.declaration, nofun, hscan⟩
      · exact ⟨.combination, nofun, hfinish⟩
    · exact ⟨.provision, nofun, h⟩
  obtain ⟨stage, hne, hmem⟩ := hstage
  exact hne (Stage.eq_repetition_of_finds (finds_of_mem_stageFaults hmem))

/-- The errors that say that a name is repeated are those of the later definitions, one for each. -/
theorem filter_duplicateMethod (i : Interface) (outer : Defaults) :
    (i.allErrors outer).filter (·.fault = .duplicateMethod) =
      i.repetitions.map fun m => ⟨i.name, m.name, .duplicateMethod⟩ := by
  have hall : i.repeatErrors.filter (·.fault = .duplicateMethod) = i.repeatErrors := by
    apply List.filter_eq_self.mpr
    intro e he
    exact decide_eq_true (fault_of_mem_repeatErrors he)
  have hnone : ∀ stage ≠ Stage.repetition, (i.block outer stage).filter (·.fault = .duplicateMethod) = [] := by
    intro stage hne
    apply List.filter_eq_nil_iff.mpr
    intro e he
    obtain ⟨m, -, hm⟩ := List.mem_flatMap.mp he
    obtain ⟨fault, hfault, rfl⟩ := List.mem_map.mp hm
    have hfinds := finds_of_mem_stageFaults hfault
    simp only [decide_eq_true_eq]
    rintro rfl
    exact hne (Stage.eq_repetition_of_finds hfinds)
  rw [allErrors_eq_blocks, ← repeatErrors_eq]
  simp only [Stage.all, List.flatMap_cons, List.flatMap_nil, List.append_nil, List.filter_append, block_repetition, hall]
  rw [hnone .declaration nofun, hnone .combination nofun, hnone .provision nofun]
  simp

/-! ## Outcomes of first definitions -/

/-- Nothing is wrong with a request exactly when it has a spec. -/
theorem requestFaults_eq_nil_iff : i.requestFaults outer m = [] ↔ (i.resolved? outer m).isSome = true := by
  cases hprepare : m.prepare (i.defaults outer) with
  | error faults =>
    have hne := (m.prepare_explained _ faults hprepare).1
    simp [requestFaults, Entry.scanFaults, resolved?, Entry.spec?, Entry.outcome?, hprepare, hne]
  | ok own =>
    cases hfinish : own.finish (i.pool outer) with
    | error faults =>
      have hne := (own.finish_explained _ faults hfinish).1
      rw [requestFaults_of_finish hprepare hfinish]
      simp [resolved?, Entry.spec?, Entry.outcome?, hprepare, hfinish, hne]
    | ok r =>
      rw [requestFaults_eq_nil hprepare hfinish]
      simp [resolved?, Entry.spec?, Entry.outcome?, hprepare, hfinish]

/-- Nothing is wrong with a params provider exactly when it has a spec. -/
theorem providerFaults_eq_nil_iff :
    Entry.providerFaults i.requestMethods ⟨m, false⟩ = [] ↔ (i.provided? m).isSome = true := by
  cases hresolve : m.resolveProvider i.requestMethods with
  | error faults =>
    have hne := (m.resolveProvider_explained _ faults hresolve).1
    simp [Entry.providerFaults, provided?, Entry.provider?, hresolve, hne, Except.toOption]
  | ok p => simp [Entry.providerFaults, provided?, Entry.provider?, hresolve, Except.toOption]

/-- What is reported against the name of a first definition beside its repetitions is what is wrong with it. -/
theorem filter_errors_outcome (hfirst : i.first? m.name = some m) :
    (i.outcome outer m.name).errors.filter (·.fault ≠ .duplicateMethod) = i.errors m.name (i.methodFaults outer m) := by
  have hrepeat : (i.repeatErrors.filter (·.method = m.name)).filter (·.fault ≠ .duplicateMethod) = [] := by
    apply List.filter_eq_nil_iff.mpr
    intro e he
    simp [fault_of_mem_repeatErrors (List.mem_filter.mp he).1]
  have howned : (i.errors m.name (i.methodFaults outer m)).filter (·.fault ≠ .duplicateMethod) =
      i.errors m.name (i.methodFaults outer m) := by
    apply List.filter_eq_self.mpr
    intro e he
    obtain ⟨fault, hfault, rfl⟩ := List.mem_map.mp he
    exact decide_eq_true (ne_duplicateMethod_of_mem_methodFaults hfault)
  rw [outcome_eq, hfirst]
  simp only [List.filter_append, hrepeat, List.nil_append]
  exact howned

variable (i outer m)

/-- A first definition is output, once and as what its markers make it, and nothing but repetitions is reported against its name. -/
def IsOutput : Prop :=
  (if m.isRequest then
    (∃ r, i.resolved? outer m = some r ∧ (i.outcome outer m.name).requests = [r]) ∧ (i.outcome outer m.name).providers = []
  else
    (i.outcome outer m.name).requests = [] ∧ ∃ p, i.provided? m = some p ∧ (i.outcome outer m.name).providers = [p]) ∧
  (i.outcome outer m.name).errors.filter (·.fault ≠ .duplicateMethod) = []

/-- A first definition is left out, and something beside repetitions is reported against its name. -/
def IsLeftOut : Prop :=
  (i.outcome outer m.name).requests = [] ∧ (i.outcome outer m.name).providers = [] ∧
    (i.outcome outer m.name).errors.filter (·.fault ≠ .duplicateMethod) ≠ []

variable {m} in
/-- A first definition is output or left out with a reason. -/
theorem isOutput_or_isLeftOut (hfirst : i.first? m.name = some m) : i.IsOutput outer m ∨ i.IsLeftOut outer m := by
  unfold IsOutput IsLeftOut
  rw [filter_errors_outcome hfirst, outcome_eq, hfirst]
  cases hrequest : m.isRequest with
  | true =>
    have hfaults : i.requestFaults outer m = [] ↔ (i.resolved? outer m).isSome = true := requestFaults_eq_nil_iff
    cases hspec : i.resolved? outer m with
    | some r => simp [methodFaults, errors, Option.filter, hrequest, hspec, hfaults]
    | none => simp [methodFaults, errors, Option.filter, hrequest, hspec, hfaults]
  | false =>
    have hfaults : Entry.providerFaults i.requestMethods ⟨m, false⟩ = [] ↔ (i.provided? m).isSome = true :=
      providerFaults_eq_nil_iff
    cases hspec : i.provided? m with
    | some p => simp [methodFaults, errors, Option.filter, hrequest, hspec, hfaults]
    | none => simp [methodFaults, errors, Option.filter, hrequest, hspec, hfaults]

/-- Every method of an interface is accounted for in what the interface is resolved to. -/
structure Accounted : Prop where
  /-- The definition of a name is its first method. -/
  first : ∀ name, i.definitions.filter (·.name = name) = (i.first? name).toList
  /-- All later methods of a name are repetitions. -/
  later : ∀ name, i.repetitions.filter (·.name = name) = (i.methods.filter (·.name = name)).tail
  /-- A first definition is either output or left out with a reason. -/
  definitions : ∀ m ∈ i.definitions, i.IsOutput outer m ∨ i.IsLeftOut outer m
  /-- The output is made from first definitions alone, in the order of declaration. -/
  requests : (i.resolve outer).1.requests = (i.definitions.filter (·.isRequest)).filterMap (i.resolved? outer)
  providers : (i.resolve outer).1.providers = (i.definitions.filter (!·.isRequest)).filterMap i.provided?
  /-- Each repetition is reported once. -/
  repetitions : (i.resolve outer).2.filter (·.fault = .duplicateMethod) =
    i.repetitions.map fun m => ⟨i.name, m.name, .duplicateMethod⟩
  /-- The errors come in the blocks of the stages, and of each stage method by method in the order of declaration. -/
  blocks : (i.resolve outer).2 = Stage.all.flatMap (i.block outer)
  order : ∀ stage, (i.stageMethods stage).Sublist i.methods
  /-- A stage reports faults of its own kinds. -/
  stages : ∀ stage m, ∀ fault ∈ i.stageFaults outer m stage, stage.finds fault = true

end Interface

/-- No method is lost, doubled or dropped silently. -/
theorem methods_accounted (i : Interface) (outer : Defaults) : i.Accounted outer where
  first := i.filter_definitions
  later := i.filter_repetitions
  definitions _ hm := i.isOutput_or_isLeftOut outer (i.mem_definitions.mp hm)
  requests := i.spec_requests_eq outer
  providers := i.spec_providers_eq outer
  repetitions := i.filter_duplicateMethod outer
  blocks := i.allErrors_eq_blocks outer
  order := i.stageMethods_sublist
  stages _ _ _ hfault := Interface.finds_of_mem_stageFaults hfault

/-- A params provider without its target, a reuse that leads nowhere, a request without sources, and a request that is repeated. -/
def mixedItems : Interface where
  name := "Items"
  methods :=
    [{ name := "itemParams", returnType := .wrapping (.sourceParams none) "Item", markers := [.paramsProvider "getNote"] },
     { name := "getItem", returnType := .wrapping .request "Item", markers := [.reuse "getItem"] },
     { name := "note", returnType := .wrapping .request "Note" },
     { name := "items", returnType := .wrapping .request "Item", markers := [.network {}] },
     { name := "items", returnType := .wrapping .request "Item" }]

example : (mixedItems.resolve {}).1.requests.map (·.name) = ["items"] ∧ (mixedItems.resolve {}).1.providers = [] ∧
    (mixedItems.resolve {}).2 =
      [⟨"Items", "items", .duplicateMethod⟩, ⟨"Items", "note", .missingSourceIntent false⟩,
       ⟨"Items", "getItem", .danglingReuse "getItem" (some "getItem")⟩,
       ⟨"Items", "itemParams", .unknownProviderTarget "getNote"⟩] := by
  decide

end DataRequests
