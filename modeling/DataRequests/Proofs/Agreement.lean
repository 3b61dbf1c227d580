import DataRequests.Proofs.Outcome

/-!
# What an outcome depends on

What comes of a method is decided by the methods of three names: its own, that of the method it reuses, and that of the request
whose parameters it builds (`Method.concerns`). Two interfaces that agree on these names (`Interface.AgreeOn`) and are declared under
the same defaults come to the same outcome (`Interface.outcome_congr`), and so methods of other names may be inserted, deleted and
replaced anywhere (`outcome_of_edits`).
-/

namespace DataRequests

/-! ## Two pools, two lists of requests -/

/-- A reuse is resolved alike in two pools that give the same for its lookup. -/
theorem RequestSpec.resolveReuse_congr {own : RequestSpec} {p q : Pool}
    (h : ∀ target, own.reuses = some target → p.lookup own.name target = q.lookup own.name target) :
    own.resolveReuse p = own.resolveReuse q := by
  unfold resolveReuse
  cases hreuses : own.reuses with
  | none => rfl
  | some target => simp only [h target hreuses]

/-- A request comes out alike beside two pools that give the same for the lookup of its reuse. -/
theorem Entry.outcome?_congr {e : Entry} {d : Defaults} {p q : Pool}
    (h : ∀ target, e.method.reuseTarget = some target → p.lookup e.method.name target = q.lookup e.method.name target) :
    e.outcome? d p = e.outcome? d q := by
  unfold outcome?
  cases hprepare : e.method.prepare d with
  | error faults => rfl
  | ok own =>
    obtain ⟨hname, hreuses⟩ := Method.scan_name_reuses ((e.method.prepare_eq_ok_iff d own).mp hprepare).1
    rw [← hname, ← hreuses] at h
    simp only [RequestSpec.finish, RequestSpec.resolveReuse_congr h]

/-- A params provider is resolved alike beside two lists of requests in which its target is the same. -/
theorem Method.resolveProvider_congr {m : Method} {requests requests' : List Method}
    (h : ∀ target, m.providerTarget = some target →
      requests.find? (·.name = target) = requests'.find? (·.name = target))
    (hprovider : m.isRequest = false) : m.resolveProvider requests = m.resolveProvider requests' := by
  obtain ⟨target, htarget⟩ : ∃ target, m.providerTarget = some target := by
    simpa [isRequest, Option.isSome_iff_exists] using hprovider
  unfold resolveProvider providerFaults targetFaults
  simp only [htarget, Option.getD_some, h target htarget]

/-- The names that the outcome of a method depends on: its own, that of the method it reuses, and that of the request whose
parameters it builds. -/
def Method.concerns (m : Method) : List String :=
  m.name :: (m.reuseTarget.toList ++ m.providerTarget.toList)

namespace Interface

/-- Two interfaces of one name that put their methods under the same defaults. -/
structure SameSetting (i j : Interface) : Prop where
  name : i.name = j.name
  config : i.config = j.config
  network : i.network = j.network

/-- Two interfaces agree on a name when they have the same methods of the name, in the same order. -/
def AgreeOn (i j : Interface) (name : String) : Prop :=
  i.methods.filter (·.name = name) = j.methods.filter (·.name = name)

variable {i j : Interface} {name target : String}

/-- The defaults of an interface are those of its setting. -/
theorem SameSetting.defaults (h : i.SameSetting j) (outer : Defaults) : i.defaults outer = j.defaults outer := by
  rw [Interface.defaults, Interface.defaults, h.config, h.network]

/-! ## What is looked up by a name -/

/-- The methods that a reuse may mean, told by the methods of the name. -/
theorem reusable_eq (i : Interface) (method target : String) :
    i.reusable method target =
      (i.methods.filter (·.name = target)).filter fun s =>
        s.isRequest && (s.reuseTarget.isNone && s.name != method) := by
  rw [reusable, declaredRequests, List.filter_filter, List.filter_filter]
  refine List.filter_congr fun s _ => ?_
  cases s.isRequest <;> cases s.reuseTarget.isNone <;> simp [Bool.and_comm]

/-- What the first reusing request of a name reuses, told by the methods of the name. -/
theorem chained?_eq (i : Interface) (target : String) :
    i.chained? target =
      ((i.methods.filter (·.name = target)).find? fun s => s.isRequest && s.reuseTarget.isSome).bind (·.reuseTarget) := by
  rw [chained?, declaredRequests, List.find?_filter, List.find?_filter]
  congr
  funext s
  cases s.isRequest <;> simp

/-- A params provider finds the first method of the name of its target, if that is a request. -/
theorem find?_requestMethods (i : Interface) (target : String) :
    i.requestMethods.find? (·.name = target) = (i.first? target).filter (·.isRequest) := by
  have hmethods : i.requestMethods = i.definitions.filter (·.isRequest) := by
    rw [requestMethods, requests_eq, List.filter_comm, definitions, List.filter_map]
    rfl
  rw [hmethods, ← List.head?_filter, List.filter_comm, filter_definitions]
  cases i.first? target with
  | none => rfl
  | some m => cases hm : m.isRequest <;> simp [Option.filter, hm]

theorem AgreeOn.first? (h : i.AgreeOn j name) : i.first? name = j.first? name := by
  rw [Interface.first?, Interface.first?, ← List.head?_filter, ← List.head?_filter, h]

/-- The lookup of a reuse knows the methods of the reused name and no others. -/
theorem AgreeOn.lookup_pool (h : i.AgreeOn j target) (hset : i.SameSetting j) (outer : Defaults) (method : String) :
    (i.pool outer).lookup method target = (j.pool outer).lookup method target := by
  rw [Interface.lookup_pool, Interface.lookup_pool, reusable_eq, reusable_eq, chained?_eq, chained?_eq, h,
    hset.defaults outer]

/-- The repetitions of a name are reported by its methods. -/
theorem AgreeOn.repeatErrors (h : i.AgreeOn j name) (hset : i.SameSetting j) :
    i.repeatErrors.filter (·.method = name) = j.repeatErrors.filter (·.method = name) := by
  have hrepetitions : ∀ k : Interface, k.repeatErrors.filter (·.method = name) =
      (k.methods.filter (·.name = name)).tail.map fun m => ⟨k.name, m.name, .duplicateMethod⟩ := by
    intro k
    rw [repeatErrors_eq, ← filter_repetitions, List.filter_map]
    rfl
  rw [hrepetitions, hrepetitions, h, hset.name]

/-! ## Outcomes -/

variable {m : Method} (outer : Defaults)

/-- Beside the other requests of an interface a method comes out as the methods of the name that it reuses decide. -/
theorem outcome?_congr (hset : i.SameSetting j) (h : ∀ name ∈ m.concerns, i.AgreeOn j name) :
    Entry.outcome? (i.defaults outer) (i.pool outer) ⟨m, false⟩ =
      Entry.outcome? (j.defaults outer) (j.pool outer) ⟨m, false⟩ := by
  rw [← hset.defaults outer]
  apply Entry.outcome?_congr
  intro target htarget
  exact (h target (by simp [Method.concerns, htarget])).lookup_pool hset outer m.name

/-- The spec of a request is decided by the names that it concerns. -/
theorem resolved?_congr (hset : i.SameSetting j) (h : ∀ name ∈ m.concerns, i.AgreeOn j name) :
    i.resolved? outer m = j.resolved? outer m := by
  unfold resolved? Entry.spec?
  rw [outcome?_congr outer hset h]

/-- A params provider is resolved alike in two interfaces that agree on its target. -/
theorem resolveProvider_congr (h : ∀ name ∈ m.concerns, i.AgreeOn j name) (hprovider : m.isRequest = false) :
    m.resolveProvider i.requestMethods = m.resolveProvider j.requestMethods := by
  apply Method.resolveProvider_congr _ hprovider
  intro target htarget
  have hagree : i.AgreeOn j target := h target (by simp [Method.concerns, htarget])
  rw [find?_requestMethods, find?_requestMethods, hagree.first?]

/-- The spec of a params provider is decided by the names that it concerns. -/
theorem provided?_congr (h : ∀ name ∈ m.concerns, i.AgreeOn j name) (hprovider : m.isRequest = false) :
    i.provided? m = j.provided? m := by
  unfold provided? Entry.provider?
  rw [resolveProvider_congr h hprovider]

/-- What is wrong with a method is decided by the names that it concerns. -/
theorem methodFaults_congr (hset : i.SameSetting j) (h : ∀ name ∈ m.concerns, i.AgreeOn j name) :
    i.methodFaults outer m = j.methodFaults outer m := by
  cases hrequest : m.isRequest with
  | true =>
    simp only [methodFaults, requestFaults, Entry.finishFaults, hrequest, if_true]
    rw [outcome?_congr outer hset h, hset.defaults outer]
  | false =>
    simp only [methodFaults, Entry.providerFaults, hrequest, Bool.false_eq_true, if_false]
    rw [resolveProvider_congr h hrequest]

/-- Two interfaces that agree on a name, and on the names that its first method concerns, output the same under the name and
report the same against it. -/
theorem outcome_congr (hset : i.SameSetting j) (hname : i.AgreeOn j name)
    (h : ∀ m, i.first? name = some m → ∀ target ∈ m.concerns, i.AgreeOn j target) :
    i.outcome outer name = j.outcome outer name := by
  rw [outcome_eq, outcome_eq, hname.repeatErrors hset, ← hname.first?]
  cases hfirst : i.first? name with
  | none => simp [errors]
  | some m =>
    have hm := h m hfirst
    rw [Option.map_some, Option.map_some, methodFaults_congr outer hset hm, errors, errors, hset.name]
    cases hrequest : m.isRequest with
    | true => simp [Option.filter, hrequest, resolved?_congr outer hset hm]
    | false => simp [Option.filter, hrequest, provided?_congr hm hrequest]

end Interface

/-! ## Edits -/

/-- A list of methods made from another by inserting and deleting methods of names that are not kept, anywhere and any number of
times. To replace a method is to delete it and to insert another one in its place. -/
inductive Edits (kept : String → Prop) : List Method → List Method → Prop where
  | nil : Edits kept [] []
  | keep {l l' : List Method} (m : Method) : Edits kept l l' → Edits kept (m :: l) (m :: l')
  | insert {l l' : List Method} (m : Method) : ¬kept m.name → Edits kept l l' → Edits kept l (m :: l')
  | delete {l l' : List Method} (m : Method) : ¬kept m.name → Edits kept l l' → Edits kept (m :: l) l'

/-- Edits leave the methods of the kept names as they are, and their order. -/
theorem Edits.filter_eq {kept : String → Prop} {l l' : List Method} (h : Edits kept l l') {name : String}
    (hname : kept name) : l.filter (·.name = name) = l'.filter (·.name = name) := by
  induction h with
  | nil => rfl
  | keep m _ ih => rw [List.filter_cons, List.filter_cons, ih]
  | insert m hm _ ih =>
    have hne : m.name ≠ name := fun h => hm (h ▸ hname)
    simp [hne, ih]
  | delete m hm _ ih =>
    have hne : m.name ≠ name := fun h => hm (h ▸ hname)
    simp [hne, ih]

/-- Methods of other names than those a first definition concerns do not matter to it: however they are inserted, deleted and
replaced, it stays the first of its name, and the same is output under the name and reported against it. -/
theorem outcome_of_edits {i j : Interface} {m : Method} (hset : i.SameSetting j) (hfirst : i.first? m.name = some m)
    (hedits : Edits (· ∈ m.concerns) i.methods j.methods) (outer : Defaults) :
    j.first? m.name = some m ∧ j.outcome outer m.name = i.outcome outer m.name := by
  have hagree : ∀ name ∈ m.concerns, i.AgreeOn j name := fun _ hname => hedits.filter_eq hname
  have hname : i.AgreeOn j m.name := hagree m.name List.mem_cons_self
  refine ⟨hname.first?.symm.trans hfirst, ?_⟩
  symm
  apply Interface.outcome_congr outer hset hname
  intro m' hfirst'
  cases hfirst.symm.trans hfirst'
  exact hagree

/-- A request, the method that it reuses, and two other methods. -/
def sparseItems : Interface where
  name := "Items"
  methods :=
    [{ name := "items", returnType := .wrapping .request "Item", markers := [.network {}] },
     { name := "note", returnType := .wrapping .request "Note", markers := [.memory {}] },
     { name := "getItem", returnType := .wrapping .request "Item", markers := [.reuse "items"] },
     { name := "countItems", returnType := .wrapping .request "Count", markers := [.memory {}] }]

/-- The same request and the method that it reuses among other methods: one that fails twice, one that reuses the request, and a
params provider for it. -/
def crowdedItems : Interface where
  name := "Items"
  methods :=
    [{ name := "items", returnType := .wrapping .request "Item", markers := [.network {}] },
     { name := "note", returnType := .wrapping .request "Note" },
     { name := "note", returnType := .wrapping .call "Note" },
     { name := "getItem", returnType := .wrapping .request "Item", markers := [.reuse "items"] },
     { name := "getItemAgain", returnType := .wrapping .request "Item", markers := [.reuse "getItem"] },
     { name := "itemParams", returnType := .wrapping (.sourceParams none) "Item", markers := [.paramsProvider "getItem"] }]

/-- The others make three errors, and the request is output as it is without them. -/
theorem crowdedItems_outcome :
    (crowdedItems.resolve {}).2.length = 3 ∧ (sparseItems.outcome {} "getItem").requests.length = 1 ∧
      crowdedItems.outcome {} "getItem" = sparseItems.outcome {} "getItem" := by
  refine ⟨by decide, by decide, ?_⟩
  refine (outcome_of_edits (i := sparseItems) (j := crowdedItems)
    (m := { name := "getItem", returnType := .wrapping .request "Item", markers := [.reuse "items"] })
    ⟨rfl, rfl, rfl⟩ rfl ?_ {}).2
  refine .keep _ (.delete _ (by decide) (.insert _ (by decide) (.insert _ (by decide) (.keep _ ?_))))
  exact .delete _ (by decide) (.insert _ (by decide) (.insert _ (by decide) .nil))

end DataRequests
