import DataRequests.Proofs.Accounts
import DataRequests.Proofs.System

/-!
# Documents are resolved in full

The interfaces of a document are resolved one by one and do not meddle with each other: for every name there is one spec, that
of the first interface of the name as it is resolved alone, and what is reported is what each interface reports in its turn.
When nothing is reported, no interface and no method is missing (`document_accounted`).
-/

namespace DataRequests

namespace Interface

variable {i : Interface} {outer : Defaults} {m : Method}

/-! ## Interfaces without errors -/

/-- When no name is repeated, the methods of an interface have different names. -/
theorem nodup_names (hrepeat : i.repeatErrors = []) : (i.methods.map (·.name)).Nodup := by
  have hnone : i.repetitions = [] := by
    rw [repeatErrors_eq] at hrepeat
    exact List.map_eq_nil_iff.mp hrepeat
  rw [List.nodup_iff_count_le_one]
  intro name
  have htail : (i.methods.filter (·.name = name)).tail = [] := by
    rw [← filter_repetitions, hnone]
    rfl
  have hcount : (i.methods.map (·.name)).count name = (i.methods.filter (·.name = name)).length := by
    rw [List.count_eq_countP, List.countP_map, List.countP_eq_length_filter]
    congr
  rw [hcount]
  have hlength := congrArg List.length htail
  rw [List.length_tail, List.length_nil] at hlength
  omega

/-- When no name is repeated, every method is a definition. -/
theorem definitions_eq (hrepeat : i.repeatErrors = []) : i.definitions = i.methods := by
  rw [definitions, ← map_method_entries]
  congr 1
  apply List.filter_eq_self.mpr
  intro e he
  by_contra hrepeated
  have hmem : e ∈ i.entries.filter (·.isRepeated) := List.mem_filter.mpr ⟨he, by simpa using hrepeated⟩
  cases List.flatMap_eq_nil_iff.mp hrepeat e hmem

/-- When nothing is wrong with an interface, nothing is wrong with any of its methods. -/
theorem methodFaults_eq_nil (h : i.allErrors outer = []) (hm : m ∈ i.methods) : i.methodFaults outer m = [] := by
  have hnone := i.filter_allErrors_name outer m.name
  rw [h, List.filter_nil, first?_of_mem (repeatErrors_eq_nil h) hm] at hnone
  have herrors := (List.append_eq_nil_iff.mp hnone.symm).2
  exact List.map_eq_nil_iff.mp herrors

/-- When nothing is wrong with an interface, every request has a spec. -/
theorem exists_resolved (h : i.allErrors outer = []) (hm : m ∈ i.methods) (hrequest : m.isRequest = true) :
    ∃ r, i.resolved? outer m = some r := by
  have hfaults := methodFaults_eq_nil h hm
  rw [methodFaults, if_pos hrequest] at hfaults
  exact Option.isSome_iff_exists.mp (requestFaults_eq_nil_iff.mp hfaults)

/-- When nothing is wrong with an interface, every params provider has a spec. -/
theorem exists_provided (h : i.allErrors outer = []) (hm : m ∈ i.methods) (hprovider : m.isRequest = false) :
    ∃ p, i.provided? m = some p := by
  have hfaults := methodFaults_eq_nil h hm
  rw [methodFaults, if_neg (by simp [hprovider])] at hfaults
  exact Option.isSome_iff_exists.mp (providerFaults_eq_nil_iff.mp hfaults)

/-- What all members of a list give, each under its own name, has their names. -/
theorem map_filterMap_of_names {α β : Type} {l : List α} {f : α → Option β} {nameOf : α → String} {nameOf' : β → String}
    (h : ∀ a ∈ l, ∃ b, f a = some b ∧ nameOf' b = nameOf a) : (l.filterMap f).map nameOf' = l.map nameOf := by
  rw [List.map_filterMap, ← List.filterMap_eq_map]
  apply List.filterMap_congr
  intro a ha
  obtain ⟨b, hb, hname⟩ := h a ha
  simp [hb, hname]

/-- A spec that lacks no method of an interface. -/
structure Complete (i : Interface) (spec : InterfaceSpec) : Prop where
  name : spec.name = i.name
  /-- The requests are the methods that are no params providers, in the order of declaration, and the params providers are the
  others. -/
  requests : spec.requests.map (·.name) = (i.methods.filter (·.isRequest)).map (·.name)
  providers : spec.providers.map (·.name) = (i.methods.filter (!·.isRequest)).map (·.name)
  /-- Each name stands for one method. -/
  names : (spec.requests.map (·.name) ++ spec.providers.map (·.name)).Nodup
  methods : (spec.requests.map (·.name) ++ spec.providers.map (·.name)).Perm (i.methods.map (·.name))

/-- An interface with which nothing is wrong is resolved in full. -/
theorem complete_of_allErrors (h : i.allErrors outer = []) : i.Complete (i.spec outer) := by
  have hrepeat := repeatErrors_eq_nil h
  have hrequests : (i.spec outer).requests.map (·.name) = (i.methods.filter (·.isRequest)).map (·.name) := by
    rw [spec_requests_eq, definitions_eq hrepeat]
    apply map_filterMap_of_names
    intro m hm
    obtain ⟨hm, hrequest⟩ := List.mem_filter.mp hm
    obtain ⟨r, hr⟩ := exists_resolved h hm hrequest
    exact ⟨r, hr, Entry.name_of_spec? hr⟩
  have hproviders : (i.spec outer).providers.map (·.name) = (i.methods.filter (!·.isRequest)).map (·.name) := by
    rw [spec_providers_eq, definitions_eq hrepeat]
    apply map_filterMap_of_names
    intro m hm
    obtain ⟨hm, hprovider⟩ := List.mem_filter.mp hm
    obtain ⟨p, hp⟩ := exists_provided h hm (by simpa using hprovider)
    exact ⟨p, hp, Entry.name_of_provider? hp⟩
  have hperm : ((i.spec outer).requests.map (·.name) ++ (i.spec outer).providers.map (·.name)).Perm (i.methods.map (·.name)) := by
    rw [hrequests, hproviders, ← List.map_append]
    exact (List.filter_append_perm _ _).map _
  exact ⟨rfl, hrequests, hproviders, hperm.nodup_iff.mpr (nodup_names hrepeat), hperm⟩

/-! ## First interfaces -/

/-- The interfaces with new names have the names of all, each once and in the order in which the names come up. -/
theorem map_name_firsts (seen : List String) (interfaces : List Interface) :
    (firsts seen interfaces).map (·.name) = ((interfaces.map (·.name)).filter (· ∉ seen)).eraseDups := by
  induction interfaces generalizing seen with
  | nil => rfl
  | cons i rest ih =>
    by_cases h : i.name ∈ seen
    · rw [firsts, if_pos h, ih]
      simp [h]
    · rw [firsts, if_neg h, List.map_cons, ih, List.map_cons, List.filter_cons_of_pos (by simpa using h), List.eraseDups_cons,
        List.filter_filter]
      congr 3
      funext name
      have hname : (name == i.name) = decide (name = i.name) := rfl
      simp [hname]

/-- When none has been seen before, the names of the interfaces with new names are the names without their repetitions. -/
theorem names_firsts (interfaces : List Interface) :
    (firsts [] interfaces).map (·.name) = (interfaces.map (·.name)).eraseDups := by
  simp [map_name_firsts]

/-- The interfaces with new names are those that are found first under the names. -/
theorem firsts_eq_filterMap (interfaces : List Interface) :
    firsts [] interfaces =
      (interfaces.map (·.name)).eraseDups.filterMap fun name => interfaces.find? (·.name = name) := by
  rw [← names_firsts, List.filterMap_map]
  conv_lhs => rw [← List.filterMap_some (l := firsts [] interfaces)]
  apply List.filterMap_congr
  intro i hi
  exact (find?_of_mem_firsts hi).2.symm

/-- The first interface of a name is found among those with new names as among all. -/
theorem find?_firsts (seen : List String) (interfaces : List Interface) (name : String) :
    (firsts seen interfaces).find? (·.name = name) =
      if name ∈ seen then none else interfaces.find? (·.name = name) := by
  induction interfaces generalizing seen with
  | nil => simp [firsts]
  | cons i rest ih =>
    by_cases hname : i.name = name
    · subst hname
      by_cases h : i.name ∈ seen <;> simp [firsts, h, ih]
    · have hne : name ≠ i.name := fun h => hname h.symm
      by_cases h : i.name ∈ seen <;> simp [firsts, h, ih, hname, hne]

/-- When nothing is reported, all names are new. -/
theorem firsts_eq_self {defaults : Defaults} {seen : List String} {interfaces : List Interface}
    (h : reports defaults seen interfaces = []) :
    firsts seen interfaces = interfaces ∧ (interfaces.map (·.name)).Nodup ∧ ∀ i ∈ interfaces, i.name ∉ seen := by
  induction interfaces generalizing seen with
  | nil => simp [firsts]
  | cons i rest ih =>
    rw [reports] at h
    split at h
    · cases h
    · rename_i hnew
      obtain ⟨hfirsts, hnodup, hrest⟩ := ih (List.append_eq_nil_iff.mp h).2
      refine ⟨by rw [firsts, if_neg hnew, hfirsts], ?_, ?_⟩
      · rw [List.map_cons, List.nodup_cons]
        refine ⟨fun hmem => ?_, hnodup⟩
        obtain ⟨j, hj, hname⟩ := List.mem_map.mp hmem
        exact hrest j hj (hname ▸ List.mem_cons_self)
      · intro j hj
        rcases List.mem_cons.mp hj with rfl | hj
        · exact hnew
        · exact fun hseen => hrest j hj (List.mem_cons_of_mem i.name hseen)

/-- What the interfaces of a list report in turn, told by their places: an interface whose name is one of those before is
reported as a repetition, and any other one reports its own errors. -/
theorem reports_eq_flatten (defaults : Defaults) (seen : List String) (interfaces : List Interface) :
    reports defaults seen interfaces =
      (interfaces.mapIdx fun place i =>
        if i.name ∈ seen ++ (interfaces.take place).map (·.name) then [i.duplicateError] else i.allErrors defaults).flatten := by
  induction interfaces generalizing seen with
  | nil => rfl
  | cons i rest ih =>
    rw [reports, List.mapIdx_cons, List.flatten_cons]
    by_cases h : i.name ∈ seen
    · rw [if_pos h, ih]
      have hsame : ∀ name names, name ∈ seen ++ i.name :: names ↔ name ∈ seen ++ names := by
        intro name names
        simp only [List.mem_append, List.mem_cons]
        constructor
        · rintro (hs | rfl | hn)
          · exact Or.inl hs
          · exact Or.inl h
          · exact Or.inr hn
        · rintro (hs | hn)
          · exact Or.inl hs
          · exact Or.inr (Or.inr hn)
      simp [h, hsame]
    · rw [if_neg h, ih]
      simp [h, or_left_comm]

end Interface

namespace Document

/-- What the interface at a place of a document reports: that an earlier one has its name, or else what it reports when it is
resolved alone. -/
def errorsAt (d : Document) (outer : Defaults) (place : Nat) (i : Interface) : List ResolutionError :=
  if i.name ∈ (d.interfaces.take place).map (·.name) then [⟨i.name, i.name, .duplicateInterface⟩]
  else (i.resolve (outer.overlay? d.config)).2

/-- Every interface of a document is accounted for in what the document is resolved to. -/
structure Accounted (d : Document) (outer : Defaults) : Prop where
  /-- There is one spec for each name, in the order in which the names come up. -/
  names : (d.resolve outer).1.interfaces.values.map (·.name) = (d.interfaces.map (·.name)).eraseDups
  /-- It is that of the first interface of the name, as it is resolved alone under the defaults of the document. -/
  values : (d.resolve outer).1.interfaces.values =
    (d.interfaces.map (·.name)).eraseDups.filterMap fun name =>
      (d.interfaces.find? (·.name = name)).map fun i => (i.resolve (outer.overlay? d.config)).1
  /-- It is found under the name, and nothing is found under other names. -/
  keys : ∀ name, (d.resolve outer).1.interfaces.find name =
    match d.interfaces.find? (·.name = name) with
    | none => .unknown
    | some i => .value (i.resolve (outer.overlay? d.config)).1
  /-- The interfaces report in the order of declaration. -/
  errors : (d.resolve outer).2 = (d.interfaces.mapIdx (d.errorsAt outer)).flatten
  /-- The document builds exactly when nothing is reported. -/
  builds : ∀ system, d.build outer = .ok system ↔ (d.resolve outer).2 = [] ∧ system = (d.resolve outer).1
  fails : ∀ errors, d.build outer = .error errors ↔ (d.resolve outer).2 = errors ∧ errors ≠ []
  /-- A document that builds has no two interfaces of one name, and all of them are resolved in full. -/
  complete : ∀ system, d.build outer = .ok system →
    (d.interfaces.map (·.name)).Nodup ∧ List.Forall₂ Interface.Complete d.interfaces system.interfaces.values

variable (d : Document) (outer : Defaults)

/-- A document that does not build gives everything that is reported. -/
theorem build_eq_error_iff (errors : List ResolutionError) :
    d.build outer = .error errors ↔ (d.resolve outer).2 = errors ∧ errors ≠ [] := by
  unfold build
  split
  · rename_i resolved h
    simp [h]
  · rename_i resolved reported hne h
    rw [h, Except.error.injEq]
    constructor
    · rintro rfl
      exact ⟨rfl, hne⟩
    · exact And.left

/-- What is found under a name is the spec of the first interface of the name. -/
theorem find_resolve (name : String) :
    (d.resolve outer).1.interfaces.find name =
      match d.interfaces.find? (·.name = name) with
      | none => .unknown
      | some i => .value (i.resolve (d.defaults outer)).1 := by
  obtain ⟨hholds, -⟩ := ResolvedSystem.foldl_step (d.defaults outer) (.empty, []) [] d.interfaces Arena.holds_empty (by simp)
  have hfind := hholds.find_eq name
  rw [List.nil_append, List.find?_map] at hfind
  have hname : ((fun e : String × InterfaceSpec => decide (e.1 = name)) ∘ ResolvedSystem.entry (d.defaults outer)) =
      fun i => decide (i.name = name) := rfl
  rw [hname, Interface.find?_firsts, if_neg List.not_mem_nil] at hfind
  rw [resolve, hfind]
  cases d.interfaces.find? (·.name = name) <;> rfl

variable {d outer} in
/-- When nothing is reported, the interfaces have different names and each is resolved in full. -/
theorem complete_of_errors (h : (d.resolve outer).2 = []) :
    (d.interfaces.map (·.name)).Nodup ∧
      List.Forall₂ Interface.Complete d.interfaces (d.resolve outer).1.interfaces.values := by
  obtain ⟨hvalues, herrors⟩ := d.resolve_eq outer
  rw [h] at herrors
  obtain ⟨hfirsts, hnodup, -⟩ := Interface.firsts_eq_self herrors.symm
  refine ⟨hnodup, ?_⟩
  rw [hvalues, List.forall₂_map_right_iff, hfirsts, List.forall₂_same]
  intro i hi
  exact Interface.complete_of_allErrors (Interface.allErrors_of_reports herrors.symm i (hfirsts.symm ▸ hi))

end Document

/-- The interfaces of a document are resolved each for itself, in the order of declaration and once for a name; nothing that is
reported is lost, and nothing is missing when nothing is reported. -/
theorem document_accounted (d : Document) (outer : Defaults) : d.Accounted outer := by
  obtain ⟨hvalues, herrors⟩ := d.resolve_eq outer
  constructor
  case names =>
    rw [hvalues, List.map_map]
    exact Interface.names_firsts d.interfaces
  case values =>
    rw [hvalues, Interface.firsts_eq_filterMap, List.map_filterMap]
    rfl
  case keys => exact d.find_resolve outer
  case errors =>
    rw [herrors, Interface.reports_eq_flatten]
    rfl
  case builds => exact d.build_eq_ok_iff outer
  case fails => exact d.build_eq_error_iff outer
  case complete =>
    intro system hbuild
    obtain ⟨hnone, rfl⟩ := (d.build_eq_ok_iff outer system).mp hbuild
    exact Document.complete_of_errors hnone

/-- An interface, another one, and one with the name of the first, whose only method lacks a source. -/
def repeatedItems : Document where
  interfaces :=
    [{ name := "Items", methods := [{ name := "items", returnType := .wrapping .request "Item", markers := [.network {}] }] },
     { name := "Notes", methods := [{ name := "notes", returnType := .wrapping .request "Note" }] },
     { name := "Items", methods := [{ name := "getItem", returnType := .wrapping .request "Item" }] }]

example : ((repeatedItems.resolve {}).1.interfaces.values.map fun spec => (spec.name, spec.requests.map (·.name))) =
      [("Items", ["items"]), ("Notes", [])] ∧
    (repeatedItems.resolve {}).2 =
      [⟨"Notes", "notes", .missingSourceIntent false⟩, ⟨"Items", "Items", .duplicateInterface⟩] := by
  decide

end DataRequests
