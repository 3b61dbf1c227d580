import DataRequests.Proofs.Agreement

/-!
# The order of declaration

The methods of an interface may be declared in any order, as long as those of one name keep theirs (`Interface.Rearranged`): the same
specs are output, in the new order, and the same is reported against every name (`resolve_of_rearranged`).
-/

namespace DataRequests

/-- Two lists are permutations of each other when they have the same elements of every name, in the same order. -/
theorem perm_of_filter_eq {α : Type} [DecidableEq α] (nameOf : α → String) {l l' : List α}
    (h : ∀ name, l.filter (nameOf · = name) = l'.filter (nameOf · = name)) : l.Perm l' := by
  rw [List.perm_iff_count]
  intro a
  have hcount : ∀ k : List α, k.count a = (k.filter (nameOf · = nameOf a)).count a := by
    intro k
    exact (List.count_filter (by simp)).symm
  rw [hcount l, hcount l', h (nameOf a)]

/-- Two lists with the same elements of every name have the same first one. -/
theorem find?_of_filter_eq {α : Type} {nameOf : α → String} {l l' : List α}
    (h : ∀ name, l.filter (nameOf · = name) = l'.filter (nameOf · = name)) (name : String) :
    l.find? (nameOf · = name) = l'.find? (nameOf · = name) := by
  rw [← List.head?_filter, ← List.head?_filter, h]

namespace Interface

/-- Two interfaces that differ in the order of their methods only, and methods of one name are in the same order in both. -/
structure Rearranged (i j : Interface) : Prop where
  setting : i.SameSetting j
  methods : i.methods.Perm j.methods
  order : ∀ m ∈ i.methods, i.AgreeOn j m.name

variable {i j : Interface}

/-- Rearranged interfaces agree on every name: there are no methods of a name that is not declared. -/
theorem Rearranged.agreeOn (h : i.Rearranged j) (name : String) : i.AgreeOn j name := by
  by_cases hdeclared : ∃ m ∈ i.methods, m.name = name
  · obtain ⟨m, hm, rfl⟩ := hdeclared
    exact h.order m hm
  · have hnone : ∀ m ∈ i.methods, ¬decide (m.name = name) = true := by
      intro m hm hname
      exact hdeclared ⟨m, hm, of_decide_eq_true hname⟩
    rw [AgreeOn, List.filter_eq_nil_iff.mpr hnone, List.filter_eq_nil_iff.mpr fun m hm => hnone m (h.methods.mem_iff.mpr hm)]

/-- Rearranged interfaces output the same under every name and report the same against it. -/
theorem Rearranged.outcome (h : i.Rearranged j) (outer : Defaults) (name : String) :
    j.outcome outer name = i.outcome outer name :=
  (outcome_congr outer h.setting (h.agreeOn name) fun _ _ target _ => h.agreeOn target).symm

/-- Rearranged interfaces output the same requests under every name. -/
theorem Rearranged.filter_requests (h : i.Rearranged j) (outer : Defaults) (name : String) :
    (j.spec outer).requests.filter (·.name = name) = (i.spec outer).requests.filter (·.name = name) :=
  congrArg Outcome.requests (h.outcome outer name)

/-- Rearranged interfaces output the same params providers under every name. -/
theorem Rearranged.filter_providers (h : i.Rearranged j) (outer : Defaults) (name : String) :
    (j.spec outer).providers.filter (·.name = name) = (i.spec outer).providers.filter (·.name = name) :=
  congrArg Outcome.providers (h.outcome outer name)

/-- The requests of a rearranged interface are those of the other one in its own order. -/
theorem Rearranged.requests_eq (h : i.Rearranged j) (outer : Defaults) :
    (j.spec outer).requests = j.definitions.filterMap fun m => (i.spec outer).request? m.name := by
  have hown := j.filterMap_definitions_eq_lookup (·.isRequest) fun m r (hr : j.resolved? outer m = some r) =>
    Entry.name_of_spec? hr
  rw [← spec_requests_eq] at hown
  refine hown.trans (List.filterMap_congr fun m _ => ?_)
  exact find?_of_filter_eq (h.filter_requests outer) m.name

/-- The params providers of a rearranged interface are those of the other one in its own order. -/
theorem Rearranged.providers_eq (h : i.Rearranged j) (outer : Defaults) :
    (j.spec outer).providers = j.definitions.filterMap fun m => (i.spec outer).providers.find? (·.name = m.name) := by
  have hown := j.filterMap_definitions_eq_lookup (!·.isRequest) fun m p (hp : j.provided? m = some p) =>
    Entry.name_of_provider? hp
  rw [← spec_providers_eq j outer] at hown
  refine hown.trans (List.filterMap_congr fun m _ => ?_)
  exact find?_of_filter_eq (h.filter_providers outer) m.name

end Interface

/-- Resolution does not depend on the order in which the methods are declared, beyond that of methods of one name: it gives the
same requests and params providers, each in the new order of declaration, the same flags, and the same errors against every name,
in the same order. -/
theorem resolve_of_rearranged {i j : Interface} (h : i.Rearranged j) (outer : Defaults) :
    ((j.resolve outer).1.requests.Perm (i.resolve outer).1.requests ∧
      (j.resolve outer).1.requests = j.definitions.filterMap fun m => (i.resolve outer).1.request? m.name) ∧
    ((j.resolve outer).1.providers.Perm (i.resolve outer).1.providers ∧
      (j.resolve outer).1.providers =
        j.definitions.filterMap fun m => (i.resolve outer).1.providers.find? (·.name = m.name)) ∧
    ((j.resolve outer).1.hasNetwork = (i.resolve outer).1.hasNetwork ∧
      (j.resolve outer).1.hasKeyValueStore = (i.resolve outer).1.hasKeyValueStore ∧
      (j.resolve outer).1.hasOptionalBinding = (i.resolve outer).1.hasOptionalBinding) ∧
    ∀ name, (j.resolve outer).2.filter (·.method = name) = (i.resolve outer).2.filter (·.method = name) := by
  have hrequests : (j.spec outer).requests.Perm (i.spec outer).requests :=
    perm_of_filter_eq (·.name) (h.filter_requests outer)
  have hproviders : (j.spec outer).providers.Perm (i.spec outer).providers :=
    perm_of_filter_eq (·.name) (h.filter_providers outer)
  refine ⟨⟨hrequests, h.requests_eq outer⟩, ⟨hproviders, h.providers_eq outer⟩, ?_, ?_⟩
  · exact ⟨hrequests.any_eq, hrequests.any_eq, hrequests.any_eq⟩
  · intro name
    exact congrArg Outcome.errors (h.outcome outer name)

/-- A request that reuses a later method, a params provider for it, and a reuse of a doubled name whose first method fails. -/
def forwardItems : Interface where
  name := "Items"
  methods :=
    [{ name := "getItem", returnType := .wrapping .request "Item", markers := [.reuse "items"] },
     { name := "items", returnType := .wrapping .request "Item", markers := [.network {}] },
     { name := "note", returnType := .wrapping .request "Note" },
     { name := "note", returnType := .wrapping .request "Note", markers := [.memory {}] },
     { name := "getNote", returnType := .wrapping .request "Note", markers := [.reuse "note"] },
     { name := "itemParams", returnType := .wrapping (.sourceParams none) "Item", markers := [.paramsProvider "getItem"] }]

/-- The same methods with the references turned round. -/
def backwardItems : Interface where
  name := "Items"
  methods :=
    [{ name := "itemParams", returnType := .wrapping (.sourceParams none) "Item", markers := [.paramsProvider "getItem"] },
     { name := "getNote", returnType := .wrapping .request "Note", markers := [.reuse "note"] },
     { name := "note", returnType := .wrapping .request "Note" },
     { name := "items", returnType := .wrapping .request "Item", markers := [.network {}] },
     { name := "note", returnType := .wrapping .request "Note", markers := [.memory {}] },
     { name := "getItem", returnType := .wrapping .request "Item", markers := [.reuse "items"] }]

/-- The two requests change places in the output, and the reuse of the doubled name is reported alike. -/
theorem backwardItems_resolve :
    (forwardItems.resolve {}).1.requests.map (·.name) = ["getItem", "items"] ∧
      (backwardItems.resolve {}).1.requests.map (·.name) = ["items", "getItem"] ∧
      (backwardItems.resolve {}).1.requests.Perm (forwardItems.resolve {}).1.requests ∧
      (forwardItems.resolve {}).2.filter (·.method = "getNote") = [⟨"Items", "getNote", .ambiguousReuse "note" 2⟩] ∧
      (backwardItems.resolve {}).2.filter (·.method = "getNote") =
        (forwardItems.resolve {}).2.filter (·.method = "getNote") := by
  have hrearranged : forwardItems.Rearranged backwardItems :=
    ⟨⟨rfl, rfl, rfl⟩, by decide, by unfold Interface.AgreeOn; decide⟩
  obtain ⟨⟨hperm, -⟩, -, -, herrors⟩ := resolve_of_rearranged hrearranged {}
  exact ⟨by decide, by decide, hperm, by decide, herrors "getNote"⟩

end DataRequests
