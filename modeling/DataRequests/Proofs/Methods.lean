import DataRequests.Resolution.Interface

/-!
# The methods of an interface by name

The entries of an interface are its methods, with the later definitions of a name told apart from the first. Here the first
definitions are found by name (`Interface.first?`), and what is picked from the entries is told in terms of the methods.
-/

namespace DataRequests

/-- To filter what a partial function gives is to filter what it is given, when the two conditions agree wherever the function
has a value. -/
theorem filter_filterMap_of_agree {α β : Type} {f : α → Option β} {p : β → Bool} {q : α → Bool}
    (h : ∀ a b, f a = some b → p b = q a) (l : List α) : (l.filterMap f).filter p = (l.filter q).filterMap f := by
  rw [List.filter_filterMap, List.filterMap_filter]
  congr
  funext a
  cases ha : f a with
  | none => simp
  | some b =>
    rw [← h a b ha]
    rfl

/-- Elements that contribute nothing may be left out of a concatenation. -/
theorem flatMap_filter_of_nil {α β : Type} {g : α → List β} {q : α → Bool} {l : List α}
    (h : ∀ a ∈ l, q a = false → g a = []) : (l.filter q).flatMap g = l.flatMap g := by
  induction l with
  | nil => rfl
  | cons a l ih =>
    have ih := ih fun b hb => h b (List.mem_cons_of_mem a hb)
    cases ha : q a with
    | true => simp [ha, ih]
    | false => simp [ha, ih, h a List.mem_cons_self ha]

/-- The result type that wraps data of a plain type. -/
def TypeExpr.wrapping (wrapper : Capability) (data : String) : TypeExpr :=
  { name := "Result", args := [{ name := data }], capabilities := [wrapper] }

/-- Whether a method is a request, and not a params provider. -/
def Method.isRequest (m : Method) : Bool :=
  m.providerTarget.isNone

namespace Entry

/-- The methods of the entries are the methods. -/
theorem map_method_mark (seen : List String) (methods : List Method) :
    (mark seen methods).map (·.method) = methods := by
  induction methods generalizing seen with
  | nil => rfl
  | cons m rest ih => simp [mark, ih]

/-- Of the entries of a name at most one is no repetition, and it is that of the first method of the name. -/
theorem filter_mark (seen : List String) (methods : List Method) (name : String) :
    (mark seen methods).filter (fun e => e.method.name = name && !e.isRepeated) =
      if name ∈ seen then [] else ((methods.find? (·.name = name)).map (Entry.mk · false)).toList := by
  induction methods generalizing seen with
  | nil => simp [mark]
  | cons m rest ih =>
    rw [mark, List.filter_cons, ih]
    by_cases hname : m.name = name
    · by_cases hseen : name ∈ seen <;> simp [hname, hseen]
    · have hne : name ≠ m.name := fun h => hname h.symm
      by_cases hseen : name ∈ seen <;> simp [hname, hne, hseen]

end Entry

namespace Interface

/-- The first method of a name; the later ones are repetitions. -/
def first? (i : Interface) (name : String) : Option Method :=
  i.methods.find? (·.name = name)

/-- The request methods of an interface, the later definitions of a name among them. -/
def declaredRequests (i : Interface) : List Method :=
  i.methods.filter (·.isRequest)

/-- The first method of a name has that name. -/
theorem name_of_first? {i : Interface} {name : String} {m : Method} (h : i.first? name = some m) : m.name = name := by
  simpa using List.find?_some h

/-- The first method of a name is a method of the interface. -/
theorem mem_of_first? {i : Interface} {name : String} {m : Method} (h : i.first? name = some m) : m ∈ i.methods :=
  List.mem_of_find?_eq_some h

theorem mem_declaredRequests {i : Interface} {m : Method} :
    m ∈ i.declaredRequests ↔ m ∈ i.methods ∧ m.isRequest = true := by
  simp [declaredRequests]

/-- The requests are the entries whose method is a request. -/
theorem requests_eq (i : Interface) : i.requests = i.entries.filter (·.method.isRequest) := by
  unfold requests
  congr
  funext e
  simp [Entry.isProvider, Method.isRequest]

/-- The providers are the entries whose method is no request. -/
theorem providers_eq (i : Interface) : i.providers = i.entries.filter (!·.method.isRequest) := by
  unfold providers
  congr
  funext e
  simp [Entry.isProvider, Method.isRequest]

/-- The methods of the entries of an interface are its methods. -/
theorem map_method_entries (i : Interface) : i.entries.map (·.method) = i.methods :=
  Entry.map_method_mark [] i.methods

/-- Of the entries of a name the one that is no repetition is that of the first method of the name. -/
theorem filter_entries_first (i : Interface) (name : String) :
    i.entries.filter (fun e => e.method.name = name && !e.isRepeated) =
      ((i.first? name).map (Entry.mk · false)).toList := by
  simp [entries, Entry.filter_mark, first?]

/-- When no name is repeated, every method is the first of its name. -/
theorem first?_of_mem {i : Interface} {m : Method} (hrepeat : i.repeatErrors = []) (hm : m ∈ i.methods) :
    i.first? m.name = some m := by
  rw [← map_method_entries] at hm
  obtain ⟨e, he, rfl⟩ := List.mem_map.mp hm
  have hnew : e.isRepeated = false := by
    cases hrepeated : e.isRepeated with
    | false => rfl
    | true => cases List.flatMap_eq_nil_iff.mp hrepeat e (List.mem_filter.mpr ⟨he, hrepeated⟩)
  have hmem : e ∈ i.entries.filter fun e' => e'.method.name = e.method.name && !e'.isRepeated := by
    simp [he, hnew]
  rw [filter_entries_first, Option.mem_toList, Option.map_eq_some_iff] at hmem
  obtain ⟨m, hfirst, rfl⟩ := hmem
  exact hfirst

/-- The methods of the requests are the request methods. -/
theorem map_method_requests (i : Interface) : i.requests.map (·.method) = i.declaredRequests := by
  rw [requests_eq, declaredRequests, ← map_method_entries, List.filter_map]
  rfl

end Interface

end DataRequests
