import DataRequests.Proofs.Provenance
import DataRequests.Proofs.ReuseFaults

/-!
# Types as text

The text of a type holds its names and, by angle brackets and commas, how they stand in each other. When no name has one of these
characters, the text can be taken apart in one way only, wherever it ends: what follows a type starts with a comma or a closing
bracket, if anything follows (`TypeExpr.chars_append_inj`). So two such types have the same text exactly when they differ in their
capabilities alone, and comparing the texts of data types compares the types (`TypeExpr.render_tells_structure`).
-/

namespace DataRequests

namespace TypeExpr

/-! ## Names and structure -/

mutual

/-- The names of a type and of its arguments, at every depth. -/
def names : TypeExpr → List String
  | ⟨name, args, _⟩ => name :: argNames args

/-- The names of some arguments, at every depth. -/
def argNames : List TypeExpr → List String
  | [] => []
  | arg :: args => names arg ++ argNames args

end

mutual

/-- The type without its capabilities and those of its arguments, at every depth: the names and how they stand in each other. -/
def untagged : TypeExpr → TypeExpr
  | ⟨name, args, _⟩ => ⟨name, untaggedArgs args, []⟩

/-- Some arguments without their capabilities. -/
def untaggedArgs : List TypeExpr → List TypeExpr
  | [] => []
  | arg :: args => untagged arg :: untaggedArgs args

end

/-- Whether a character parts the names in the text of a type. -/
def isDelimiter (c : Char) : Bool :=
  c = '<' || c = '>' || c = ','

/-- No name of the type, at any depth, has a character that parts names. -/
def Plain (t : TypeExpr) : Prop :=
  ∀ name ∈ t.names, ∀ c ∈ name.toList, isDelimiter c = false

instance (t : TypeExpr) : Decidable t.Plain :=
  decidable_of_iff (t.names.all fun name => name.toList.all fun c => !isDelimiter c) (by simp [Plain])

/-- A plain type has a plain name. -/
theorem Plain.name {name : String} {args : List TypeExpr} {capabilities : List Capability}
    (h : Plain ⟨name, args, capabilities⟩) : ∀ c ∈ name.toList, isDelimiter c = false :=
  h name List.mem_cons_self

/-- The first argument of a plain type is plain, and so is the type with the other arguments. -/
theorem Plain.args {name : String} {arg : TypeExpr} {args : List TypeExpr} {capabilities : List Capability}
    (h : Plain ⟨name, arg :: args, capabilities⟩) : arg.Plain ∧ Plain ⟨name, args, capabilities⟩ := by
  simp only [Plain, names, argNames, List.forall_mem_cons, List.forall_mem_append] at h ⊢
  exact ⟨h.2.1, h.1, h.2.2⟩

/-! ## Where a name ends -/

/-- What stands behind the name of a type with some arguments. -/
def bracketed : List TypeExpr → List Char
  | [] => []
  | arg :: args => '<' :: (chars arg ++ argChars args)

/-- The text of a type is its name and what its arguments put behind it. -/
theorem chars_eq (t : TypeExpr) : t.chars = t.name.toList ++ bracketed t.args := by
  obtain ⟨name, args, capabilities⟩ := t
  cases args with
  | nil => exact (List.append_nil _).symm
  | cons arg args => rfl

/-- A text is empty or starts with a character that parts names. -/
def StopsName (r : List Char) : Prop :=
  ∀ c ∈ r.head?, isDelimiter c = true

/-- A text is empty or starts like what may follow a type: with a comma or with a closing bracket. -/
def StopsType (r : List Char) : Prop :=
  ∀ c ∈ r.head?, c = ',' ∨ c = '>'

theorem stopsType_nil : StopsType [] :=
  nofun

/-- What follows an argument is a comma or the closing bracket. -/
theorem stopsType_argChars (args : List TypeExpr) (r : List Char) : StopsType (argChars args ++ r) := by
  cases args with
  | nil => exact fun c hc => Or.inr (Option.some.inj hc).symm
  | cons arg args => exact fun c hc => Or.inl (Option.some.inj hc).symm

/-- Behind a name, arguments start with a bracket, and what follows a type without arguments is no part of the name either. -/
theorem StopsType.stopsName {r : List Char} (h : StopsType r) (args : List TypeExpr) : StopsName (bracketed args ++ r) := by
  cases args with
  | nil =>
    intro c hc
    rcases h c hc with rfl | rfl <;> rfl
  | cons arg args =>
    intro c hc
    obtain rfl := Option.some.inj hc
    rfl

/-- A text that stops names has no part of a name at its front. -/
theorem StopsName.takeWhile_eq_nil {r : List Char} (h : StopsName r) : r.takeWhile (fun c => !isDelimiter c) = [] := by
  cases r with
  | nil => rfl
  | cons c rest => exact List.takeWhile_cons_of_neg (by simp [h c rfl])

/-- A plain name ends where the first character stands that parts names. -/
theorem name_append_inj {name name' r s : List Char} (hname : ∀ c ∈ name, isDelimiter c = false)
    (hname' : ∀ c ∈ name', isDelimiter c = false) (hr : StopsName r) (hs : StopsName s) (h : name ++ r = name' ++ s) :
    name = name' ∧ r = s := by
  have htake := congrArg (List.takeWhile fun c => !isDelimiter c) h
  rw [List.takeWhile_append_of_pos (by simpa using hname), List.takeWhile_append_of_pos (by simpa using hname'),
    hr.takeWhile_eq_nil, hs.takeWhile_eq_nil, List.append_nil, List.append_nil] at htake
  exact ⟨htake, List.append_cancel_left (htake ▸ h)⟩

/-! ## Where a type ends -/

mutual

/-- A plain type is read off the front of a text in one way: its structure and what follows it are told by the text. -/
theorem chars_append_inj (t u : TypeExpr) (ht : t.Plain) (hu : u.Plain) {r s : List Char} (hr : StopsType r) (hs : StopsType s)
    (h : t.chars ++ r = u.chars ++ s) : t.untagged = u.untagged ∧ r = s := by
  match t, u with
  | ⟨name, args, capabilities⟩, ⟨name', args', capabilities'⟩ =>
    rw [chars_eq, chars_eq, List.append_assoc, List.append_assoc] at h
    obtain ⟨hname, hrest⟩ := name_append_inj ht.name hu.name (hr.stopsName args) (hs.stopsName args') h
    obtain rfl : name = name' := String.toList_inj.mp hname
    match args, args' with
    | [], [] => exact ⟨rfl, hrest⟩
    | [], arg' :: args' =>
      rcases hr '<' (by rw [show r = '<' :: (chars arg' ++ argChars args' ++ s) from hrest]; rfl) with h | h <;> cases h
    | arg :: args, [] =>
      rcases hs '<' (by rw [show s = '<' :: (chars arg ++ argChars args ++ r) from hrest.symm]; rfl) with h | h <;> cases h
    | arg :: args, arg' :: args' =>
      have hrest : chars arg ++ (argChars args ++ r) = chars arg' ++ (argChars args' ++ s) := by
        simpa [bracketed] using hrest
      obtain ⟨harg, hrest⟩ := chars_append_inj arg arg' ht.args.1 hu.args.1 (stopsType_argChars args r)
        (stopsType_argChars args' s) hrest
      obtain ⟨hargs, hrest⟩ := argChars_append_inj args args' ht.args.2 hu.args.2 hrest
      exact ⟨by rw [untagged, untagged, untaggedArgs, untaggedArgs, harg, hargs], hrest⟩

/-- The arguments of plain types are read off the front of a text in one way: the closing bracket tells where they end. -/
theorem argChars_append_inj (args args' : List TypeExpr) {name name' : String} {capabilities capabilities' : List Capability}
    (ht : Plain ⟨name, args, capabilities⟩) (hu : Plain ⟨name', args', capabilities'⟩) {r s : List Char}
    (h : argChars args ++ r = argChars args' ++ s) : untaggedArgs args = untaggedArgs args' ∧ r = s := by
  match args, args' with
  | [], [] => exact ⟨rfl, (List.cons.inj h).2⟩
  | [], _ :: _ => cases (List.cons.inj h).1
  | _ :: _, [] => cases (List.cons.inj h).1
  | arg :: args, arg' :: args' =>
    have hrest : chars arg ++ (argChars args ++ r) = chars arg' ++ (argChars args' ++ s) := by
      simpa [argChars] using h
    obtain ⟨harg, hrest⟩ := chars_append_inj arg arg' ht.args.1 hu.args.1 (stopsType_argChars args r)
      (stopsType_argChars args' s) hrest
    obtain ⟨hargs, hrest⟩ := argChars_append_inj args args' ht.args.2 hu.args.2 hrest
    exact ⟨by rw [untaggedArgs, untaggedArgs, harg, hargs], hrest⟩

end

mutual

/-- Capabilities are not written. -/
theorem chars_untagged : ∀ t : TypeExpr, t.untagged.chars = t.chars
  | ⟨_, [], _⟩ => rfl
  | ⟨_, arg :: args, _⟩ => by rw [untagged, untaggedArgs, chars, chars, chars_untagged arg, argChars_untagged args]

theorem argChars_untagged : ∀ args : List TypeExpr, argChars (untaggedArgs args) = argChars args
  | [] => rfl
  | arg :: args => by rw [untaggedArgs, argChars, argChars, chars_untagged arg, argChars_untagged args]

end

/-- Two plain types have the same text exactly when they have the same structure. -/
theorem render_eq_render_iff {t u : TypeExpr} (ht : t.Plain) (hu : u.Plain) :
    t.render = u.render ↔ t.untagged = u.untagged := by
  rw [render, render, String.ofList_inj]
  constructor
  · intro h
    exact (chars_append_inj t u ht hu stopsType_nil stopsType_nil (congrArg (· ++ []) h)).1
  · intro h
    rw [← chars_untagged t, h, chars_untagged u]

end TypeExpr

/-! ## Data types -/

/-- The data of the return type of a method, if it can be returned. -/
def Method.dataType? (m : Method) : Option TypeExpr :=
  match m.returnType.returnKind m.isController with
  | .error _ => none
  | .ok (kind, _) => m.returnType.dataType? kind

/-- The shape of a return type holds the text of its data. -/
theorem ReturnShape.exists_data_of_ofType {t : TypeExpr} {isController : Bool} {shape : ReturnShape}
    (h : ReturnShape.ofType t isController = .ok shape) :
    ∃ kind payload data, t.returnKind isController = .ok (kind, payload) ∧ t.dataType? kind = some data ∧
      shape.dataType = data.render := by
  unfold ReturnShape.ofType at h
  split at h
  · cases h
  · rename_i kind payload hkind
    split at h
    · cases h
    · rename_i data hdata
      cases h
      exact ⟨kind, payload, data, hkind, hdata, rfl⟩

/-- A scanned spec holds the text of its method's data type. -/
theorem Method.exists_dataType_of_scan {m : Method} {d : Defaults} {r : RequestSpec} (h : m.scan d = .ok r) :
    ∃ t, m.dataType? = some t ∧ r.dataType = t.render := by
  obtain ⟨-, -, -, shape, hshape, rfl⟩ := (m.scan_eq_ok_iff d r).mp h
  obtain ⟨kind, payload, data, hkind, hdata, hrender⟩ := ReturnShape.exists_data_of_ofType hshape
  refine ⟨data, ?_, hrender⟩
  have hkind : m.returnType.returnKind m.isController = .ok (kind, payload) := hkind
  rw [dataType?, hkind]
  exact hdata

/-- A reuse that has found a handle is refused for nothing but another data type. -/
theorem RequestSpec.resolveReuse_of_lookup {own reference : RequestSpec} {pool : Pool} {target : String}
    (hreuse : own.reuses = some target) (hlookup : pool.lookup own.name target = .ok reference) :
    own.resolveReuse pool =
      if reference.dataType = own.dataType then .ok (own.merge reference)
      else .error (.reuseTypeMismatch target reference.dataType own.dataType) := by
  simp [resolveReuse, hreuse, hlookup]

/-- **The text of a type tells its structure.** Types whose names have no brackets and commas have the same text exactly when they
are the same but for capabilities. So a reuse that has found a handle is refused as a mismatch exactly when the data types of the two
methods differ in structure, when the names in both are such, and this is then what an interface reports about the reuse. -/
theorem TypeExpr.render_tells_structure :
    (∀ t u : TypeExpr, t.Plain → u.Plain → (t.render = u.render ↔ t.untagged = u.untagged)) ∧
    (∀ (m s : Method) (d d' : Defaults) (own reference : RequestSpec) (pool : Pool) (target : String),
      m.scan d = .ok own → s.scan d' = .ok reference → own.reuses = some target →
      pool.lookup own.name target = .ok reference →
      ∃ t u, m.dataType? = some t ∧ s.dataType? = some u ∧
        (t.Plain → u.Plain →
          ((∃ expected found, own.resolveReuse pool = .error (.reuseTypeMismatch target expected found)) ↔
            t.untagged ≠ u.untagged))) ∧
    ∀ (i : Interface) (outer : Defaults) (m s : Method) (own handle : RequestSpec) (target : String),
      i.first? m.name = some m → m.isRequest = true → m.scan (i.defaults outer) = .ok own →
      Marker.reuse target ∈ m.markers → i.reusable m.name target = [s] → s.standalone (i.defaults outer) = .ok handle →
      ∃ t u, m.dataType? = some t ∧ s.dataType? = some u ∧
        (t.Plain → u.Plain →
          i.reuseErrors outer m.name =
            if t.untagged = u.untagged then [] else [⟨i.name, m.name, .reuseTypeMismatch target u.render t.render⟩]) := by
  refine ⟨fun t u ht hu => render_eq_render_iff ht hu, ?_, ?_⟩
  · intro m s d d' own reference pool target hm hs hreuse hlookup
    obtain ⟨t, ht, hown⟩ := Method.exists_dataType_of_scan hm
    obtain ⟨u, hu, hreference⟩ := Method.exists_dataType_of_scan hs
    refine ⟨t, u, ht, hu, fun htplain huplain => ?_⟩
    rw [RequestSpec.resolveReuse_of_lookup hreuse hlookup, hown, hreference, Ne, ← render_eq_render_iff htplain huplain,
      eq_comm (a := t.render)]
    split
    · rename_i heq
      simp [heq]
    · rename_i hne
      simp [hne]
  · intro i outer m s own handle target hfirst hrequest hscan hreuse hone hhandle
    have hprepare := ((s.standalone_eq_ok_iff _ _).mp hhandle).1
    obtain ⟨t, ht, hown⟩ := Method.exists_dataType_of_scan hscan
    obtain ⟨u, hu, hreference⟩ := Method.exists_dataType_of_scan ((s.prepare_eq_ok_iff _ _).mp hprepare).1
    refine ⟨t, u, ht, hu, fun htplain huplain => ?_⟩
    have hlookup := Interface.lookup_pool_eq_ok_iff.mpr ⟨s, hone, hhandle⟩
    rw [Interface.reuseErrors_of_lookup_ok hfirst hrequest hscan hreuse hlookup, hown, hreference]
    simp only [← render_eq_render_iff htplain huplain, eq_comm]

/-- A map of lists to texts. -/
def keyedItems : TypeExpr :=
  ⟨"Map", [⟨"List", [⟨"Item", [], []⟩], [.list]⟩, ⟨"Text", [], []⟩], []⟩

/-- The same names with one bracket further on. -/
def pairedItems : TypeExpr :=
  ⟨"Map", [⟨"List", [⟨"Item", [], []⟩, ⟨"Text", [], []⟩], []⟩], []⟩

/-- A request for the first data, and two that reuse it: one for the same data without capabilities, and one for the second. -/
def nestedItems : Interface where
  name := "Items"
  methods :=
    [{ name := "items", returnType := ⟨"Result", [keyedItems], [.request]⟩, markers := [.network {}] },
     { name := "getItems", returnType := ⟨"Result", [keyedItems.untagged], [.request]⟩, markers := [.reuse "items"] },
     { name := "getPairs", returnType := ⟨"Result", [pairedItems], [.request]⟩, markers := [.reuse "items"] }]

/-- The second reuse alone is reported. -/
theorem nestedItems_mismatch :
    keyedItems.Plain ∧ pairedItems.Plain ∧ keyedItems.render ≠ pairedItems.render ∧
      nestedItems.reuseErrors {} "getItems" = [] ∧
      nestedItems.reuseErrors {} "getPairs" =
        [⟨"Items", "getPairs", .reuseTypeMismatch "items" "Map<List<Item>, Text>" "Map<List<Item, Text>>"⟩] := by
  obtain ⟨htext, -, hreported⟩ := TypeExpr.render_tells_structure
  have hkeyed : keyedItems.Plain := by decide
  have hpaired : pairedItems.Plain := by decide
  refine ⟨hkeyed, hpaired, fun h => ?_, ?_, ?_⟩
  · exact absurd ((htext _ _ hkeyed hpaired).mp h) (by decide)
  · obtain ⟨t, u, ht, hu, herrors⟩ := hreported nestedItems {}
      { name := "getItems", returnType := ⟨"Result", [keyedItems.untagged], [.request]⟩, markers := [.reuse "items"] }
      { name := "items", returnType := ⟨"Result", [keyedItems], [.request]⟩, markers := [.network {}] }
      _ _ "items" rfl rfl rfl (List.mem_singleton_self _) (by decide) rfl
    cases ht
    cases hu
    exact (herrors (by decide) hkeyed).trans (if_pos (by decide))
  · obtain ⟨t, u, ht, hu, herrors⟩ := hreported nestedItems {}
      { name := "getPairs", returnType := ⟨"Result", [pairedItems], [.request]⟩, markers := [.reuse "items"] }
      { name := "items", returnType := ⟨"Result", [keyedItems], [.request]⟩, markers := [.network {}] }
      _ _ "items" rfl rfl rfl (List.mem_singleton_self _) (by decide) rfl
    cases ht
    cases hu
    exact (herrors hpaired hkeyed).trans (if_neg (by decide))

end DataRequests
