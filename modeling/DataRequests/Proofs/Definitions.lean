import DataRequests.Proofs.Methods
import Mathlib.Data.List.Basic

/-!
# First definitions and repetitions

The first method of each name is resolved, and the later ones are repetitions. The entries of an interface mark the two; here they
are told apart as lists of methods in the order of declaration (`Interface.definitions`, `Interface.repetitions`), and what is
collected from the entries that are no repetitions is collected from the definitions (`Interface.flatMap_entries`).
-/

namespace DataRequests

/-- Of the entries of a name the repetitions are those of all methods of the name but the first. -/
theorem Entry.filter_mark_repeated (seen : List String) (methods : List Method) (name : String) :
    ((mark seen methods).filter fun e => e.method.name = name && e.isRepeated).map (·.method) =
      if name ∈ seen then methods.filter (·.name = name) else (methods.filter (·.name = name)).tail := by
  induction methods generalizing seen with
  | nil => simp [mark]
  | cons m rest ih =>
    have ih := ih (m.name :: seen)
    rw [mark, List.filter_cons]
    by_cases hname : m.name = name
    · subst hname
      rw [if_pos List.mem_cons_self] at ih
      by_cases hseen : m.name ∈ seen <;> simp [hseen, ih]
    · have hne : name ≠ m.name := fun h => hname h.symm
      simp only [List.mem_cons, hne, false_or] at ih
      simp [hname, ih]

namespace Interface

variable (i : Interface)

/-- The methods of an interface that are the first of their names, in the order of declaration. -/
def definitions : List Method :=
  (i.entries.filter (!·.isRepeated)).map (·.method)

/-- The later methods of the names of an interface, in the order of declaration. -/
def repetitions : List Method :=
  (i.entries.filter (·.isRepeated)).map (·.method)

/-- The definition of a name is the first method of the name. -/
theorem filter_definitions (name : String) : i.definitions.filter (·.name = name) = (i.first? name).toList := by
  rw [definitions, List.filter_map, List.filter_filter]
  refine (congrArg (List.map (·.method)) (i.filter_entries_first name)).trans ?_
  cases i.first? name <;> rfl

/-- A method is a definition exactly when it is the first method of its name. -/
theorem mem_definitions {m : Method} : m ∈ i.definitions ↔ i.first? m.name = some m := by
  have hfilter : m ∈ i.definitions ↔ m ∈ i.definitions.filter (·.name = m.name) := by simp
  rw [hfilter, filter_definitions, Option.mem_toList]

/-- The repetitions of a name are all methods of the name but the first. -/
theorem filter_repetitions (name : String) :
    i.repetitions.filter (·.name = name) = (i.methods.filter (·.name = name)).tail := by
  have hmark := Entry.filter_mark_repeated [] i.methods name
  rw [if_neg List.not_mem_nil] at hmark
  rw [← hmark, repetitions, List.filter_map, List.filter_filter]
  rfl

/-- The methods of some entries are methods of the interface in the order of declaration. -/
theorem map_method_filter_sublist (p : Entry → Bool) : ((i.entries.filter p).map (·.method)).Sublist i.methods := by
  rw [← map_method_entries]
  exact List.filter_sublist.map _

/-- A repetition is reported as such, each once and in the order of declaration. -/
theorem repeatErrors_eq : i.repeatErrors = i.repetitions.map fun m => ⟨i.name, m.name, .duplicateMethod⟩ := by
  rw [repetitions, List.map_map, List.map_eq_flatMap]
  rfl

/-- What is collected from some entries, and never from a repetition, is collected from the definitions. -/
theorem flatMap_entries {β : Type} (c : Method → Bool) (f : Entry → List β)
    (hf : ∀ e, e.isRepeated = true → f e = []) :
    (i.entries.filter (c ·.method)).flatMap f = (i.definitions.filter c).flatMap fun m => f ⟨m, false⟩ := by
  have hnil : ∀ e ∈ i.entries.filter (c ·.method), (!e.isRepeated) = false → f e = [] := by
    intro e _ he
    exact hf e (by simpa using he)
  have hentry : ∀ e ∈ (i.entries.filter (!·.isRepeated)).filter (c ·.method), f e = f ⟨e.method, false⟩ := by
    intro e he
    have hnew : e.isRepeated = false := by simpa using (List.mem_filter.mp (List.mem_of_mem_filter he)).2
    rw [← hnew]
  rw [← flatMap_filter_of_nil hnil, List.filter_comm, List.flatMap_congr hentry, definitions, List.filter_map, List.flatMap_map]
  rfl

/-- What some entries give, and no repetition, is what the definitions give. -/
theorem filterMap_entries {β : Type} (c : Method → Bool) (f : Entry → Option β)
    (hf : ∀ e, e.isRepeated = true → f e = none) :
    (i.entries.filter (c ·.method)).filterMap f = (i.definitions.filter c).filterMap fun m => f ⟨m, false⟩ := by
  rw [List.filterMap_eq_flatMap_toList, List.filterMap_eq_flatMap_toList]
  exact i.flatMap_entries c (fun e => (f e).toList) fun e he => by rw [hf e he]; rfl

end Interface

end DataRequests
