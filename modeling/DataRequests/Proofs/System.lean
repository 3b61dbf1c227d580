import DataRequests.Proofs.Arena
import DataRequests.Resolution.System

/-!
# What resolving a document comes to

The interfaces of a document go one by one into an arena. Here the whole run is told at once: the first interfaces of their names
are resolved, each as it would be alone (`Interface.firsts`), and what is reported is what the interfaces report in turn
(`Interface.reports`).
-/

namespace DataRequests

namespace Interface

/-- The interfaces of a list whose names are new. `seen` holds the names of those before. -/
def firsts (seen : List String) : List Interface → List Interface
  | [] => []
  | i :: rest => if i.name ∈ seen then firsts seen rest else i :: firsts (i.name :: seen) rest

/-- What the interfaces of a list report in turn. `seen` holds the names of those before. -/
def reports (defaults : Defaults) (seen : List String) : List Interface → List ResolutionError
  | [] => []
  | i :: rest =>
    if i.name ∈ seen then i.duplicateError :: reports defaults seen rest
    else i.allErrors defaults ++ reports defaults (i.name :: seen) rest

/-- An interface with a new name is one of the list. -/
theorem mem_of_mem_firsts {seen : List String} {interfaces : List Interface} {i : Interface}
    (h : i ∈ firsts seen interfaces) : i ∈ interfaces := by
  induction interfaces generalizing seen with
  | nil => exact h
  | cons j rest ih =>
    rw [firsts] at h
    split at h
    · exact List.mem_cons_of_mem j (ih h)
    · rcases List.mem_cons.mp h with rfl | h
      · exact List.mem_cons_self
      · exact List.mem_cons_of_mem j (ih h)

/-- An interface with a new name is the first of its name. -/
theorem find?_of_mem_firsts {seen : List String} {interfaces : List Interface} {i : Interface}
    (h : i ∈ firsts seen interfaces) : i.name ∉ seen ∧ interfaces.find? (·.name = i.name) = some i := by
  induction interfaces generalizing seen with
  | nil => cases h
  | cons j rest ih =>
    rw [firsts] at h
    split at h
    · rename_i hseen
      obtain ⟨hnew, hfind⟩ := ih h
      have hne : j.name ≠ i.name := fun hname => hnew (hname ▸ hseen)
      exact ⟨hnew, by simpa [hne] using hfind⟩
    · rename_i hseen
      rcases List.mem_cons.mp h with rfl | h
      · exact ⟨hseen, by simp⟩
      · obtain ⟨hnew, hfind⟩ := ih h
        have hne : j.name ≠ i.name := fun hname => hnew (hname ▸ List.mem_cons_self)
        exact ⟨fun hseen => hnew (List.mem_cons_of_mem j.name hseen), by simpa [hne] using hfind⟩

/-- When nothing is reported, nothing is wrong with the interfaces that are resolved. -/
theorem allErrors_of_reports {defaults : Defaults} {seen : List String} {interfaces : List Interface}
    (h : reports defaults seen interfaces = []) : ∀ i ∈ firsts seen interfaces, i.allErrors defaults = [] := by
  induction interfaces generalizing seen with
  | nil => exact fun i hi => nomatch hi
  | cons j rest ih =>
    rw [reports] at h
    rw [firsts]
    split at h
    · cases h
    · rename_i hnew
      obtain ⟨hj, hrest⟩ := List.append_eq_nil_iff.mp h
      rw [if_neg hnew]
      intro i hi
      rcases List.mem_cons.mp hi with rfl | hi
      · exact hj
      · exact ih hrest i hi

/-- When nothing is wrong with an interface, no name is repeated there. -/
theorem repeatErrors_eq_nil {i : Interface} {outer : Defaults} (h : i.allErrors outer = []) : i.repeatErrors = [] := by
  simp only [allErrors, List.append_eq_nil_iff] at h
  exact h.1.1.1

end Interface

namespace ResolvedSystem

/-- What a resolved interface is entered as. -/
def entry (defaults : Defaults) (i : Interface) : String × InterfaceSpec :=
  (i.name, (i.resolve defaults).1)

variable (defaults : Defaults) (state : ResolvedSystem × List ResolutionError) {entries : List (String × InterfaceSpec)}

/-- An interface with a name that is taken is reported and not entered. -/
theorem step_of_taken {i : Interface} (h : state.1.interfaces.contains i.name = true) :
    step defaults state i = (state.1, state.2 ++ [i.duplicateError]) :=
  if_pos h

/-- An interface with a new name is entered and what is wrong with it is reported. -/
theorem step_of_new {i : Interface} (h : state.1.interfaces.contains i.name = false) :
    step defaults state i =
      (⟨state.1.interfaces.insert i.name (i.resolve defaults).1⟩, state.2 ++ i.allErrors defaults) :=
  if_neg (Bool.not_eq_true _ ▸ h)

/-- A run enters the interfaces with new names in order, and reports what the interfaces report in turn. -/
theorem foldl_step (seen : List String) (interfaces : List Interface) (hholds : state.1.interfaces.Holds entries)
    (hseen : ∀ name, name ∈ seen ↔ ∃ e ∈ entries, e.1 = name) :
    (interfaces.foldl (step defaults) state).1.interfaces.Holds
        (entries ++ (Interface.firsts seen interfaces).map (entry defaults)) ∧
      (interfaces.foldl (step defaults) state).2 = state.2 ++ Interface.reports defaults seen interfaces := by
  induction interfaces generalizing state entries seen with
  | nil => simpa [Interface.firsts, Interface.reports] using hholds
  | cons i rest ih =>
    have htaken : state.1.interfaces.contains i.name = true ↔ i.name ∈ seen :=
      (hholds.contains_iff i.name).trans (hseen i.name).symm
    rw [List.foldl_cons]
    by_cases h : i.name ∈ seen
    · rw [step_of_taken defaults state (htaken.mpr h)]
      obtain ⟨hentries, herrors⟩ := ih (state.1, state.2 ++ [i.duplicateError]) seen hholds hseen
      refine ⟨?_, ?_⟩
      · simpa [Interface.firsts, h] using hentries
      · simpa [Interface.reports, h] using herrors
    · rw [step_of_new defaults state (Bool.eq_false_iff.mpr fun hc => h (htaken.mp hc))]
      -- the names seen are those of the entries at every step of the run
      have hseen' : ∀ name, name ∈ i.name :: seen ↔ ∃ e ∈ entries ++ [entry defaults i], e.1 = name := by
        intro name
        simp [hseen, entry, or_comm, or_and_right, exists_or, eq_comm]
      obtain ⟨hentries, herrors⟩ := ih (⟨state.1.interfaces.insert i.name (i.resolve defaults).1⟩, _) (i.name :: seen)
        (hholds.insert i.name (i.resolve defaults).1) hseen'
      refine ⟨?_, ?_⟩
      · simpa [Interface.firsts, h, entry] using hentries
      · simpa [Interface.reports, h] using herrors

end ResolvedSystem

namespace Document

variable {d : Document} {outer : Defaults}

/-- The resolved interfaces of a document are the first ones of their names, each as it is resolved alone, and what is reported
is what the interfaces report in turn. -/
theorem resolve_eq (d : Document) (outer : Defaults) :
    (d.resolve outer).1.interfaces.values =
        (Interface.firsts [] d.interfaces).map (fun i => (i.resolve (d.defaults outer)).1) ∧
      (d.resolve outer).2 = Interface.reports (d.defaults outer) [] d.interfaces := by
  obtain ⟨hholds, herrors⟩ := ResolvedSystem.foldl_step (d.defaults outer) (.empty, []) [] d.interfaces
    Arena.holds_empty (by simp)
  refine ⟨?_, herrors⟩
  rw [resolve, hholds.values_eq, List.nil_append, List.map_map]
  rfl

/-- Every resolved interface of a document is the first interface of its name as it is resolved alone. -/
theorem exists_of_resolve {spec : InterfaceSpec} (hspec : spec ∈ (d.resolve outer).1.interfaces.values) :
    ∃ i, d.interfaces.find? (·.name = spec.name) = some i ∧ (i.resolve (d.defaults outer)).1 = spec := by
  rw [(d.resolve_eq outer).1] at hspec
  obtain ⟨i, hi, rfl⟩ := List.mem_map.mp hspec
  exact ⟨i, (Interface.find?_of_mem_firsts hi).2, rfl⟩

/-- A document builds exactly when nothing is reported. -/
theorem build_eq_ok_iff (d : Document) (outer : Defaults) (system : ResolvedSystem) :
    d.build outer = .ok system ↔ (d.resolve outer).2 = [] ∧ system = (d.resolve outer).1 := by
  unfold build
  split
  · rename_i resolved h
    simp [h, eq_comm]
  · rename_i resolved errors hne h
    rw [h]
    exact iff_of_false nofun fun hnone => hne hnone.1

/-- Every interface of a document that builds is an interface of the document as it is resolved alone, and nothing is wrong
with it. -/
theorem exists_of_build {system : ResolvedSystem} {spec : InterfaceSpec} (hbuild : d.build outer = .ok system)
    (hspec : spec ∈ system.interfaces.values) :
    ∃ i ∈ d.interfaces, i.allErrors (d.defaults outer) = [] ∧ i.spec (d.defaults outer) = spec := by
  obtain ⟨hvalues, herrors⟩ := d.resolve_eq outer
  obtain ⟨hnone, rfl⟩ := (d.build_eq_ok_iff outer system).mp hbuild
  rw [hnone] at herrors
  rw [hvalues] at hspec
  obtain ⟨i, hi, rfl⟩ := List.mem_map.mp hspec
  exact ⟨i, Interface.mem_of_mem_firsts hi, Interface.allErrors_of_reports herrors.symm i hi, rfl⟩

/-- No name is repeated in an interface of a document that builds. -/
theorem exists_unrepeated_of_build {system : ResolvedSystem} {spec : InterfaceSpec} (hbuild : d.build outer = .ok system)
    (hspec : spec ∈ system.interfaces.values) :
    ∃ i : Interface, i.repeatErrors = [] ∧ i.spec (d.defaults outer) = spec := by
  obtain ⟨i, -, herrors, hi⟩ := exists_of_build hbuild hspec
  exact ⟨i, Interface.repeatErrors_eq_nil herrors, hi⟩

end Document

end DataRequests
