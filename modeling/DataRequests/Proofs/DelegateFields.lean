import DataRequests.Proofs.Completeness
import DataRequests.Proofs.Delegates
import DataRequests.Proofs.LowerCamelCase
import DataRequests.Proofs.WellFormed
import Mathlib.Data.List.Pairwise

/-!
# Fields of delegates

The delegate that a request uses and the field that keeps it come from one method, its own or the one that it reuses
(`Interface.delegateMethod`), and the field is named after that method. Two methods may come into conflict over it. A method
that declares the store again and leaves the delegate out asks the constructor for the delegate of the method that it reuses,
which asks for it too (`storeDelegates_nodup_iff_of_build`); and two names may differ and the fields named after them not
(`storageField_ne_iff_of_build`).
-/

namespace DataRequests

/-- The type of the delegate that the method's own marker of the store gives. -/
def Method.delegate? (m : Method) : Option String :=
  (m.markers.findSome? Marker.keyValueStore?).bind (·.delegate)

/-- A method that gives a delegate declares the store. -/
theorem Method.declares_store {m : Method} {delegate : String} (h : m.delegate? = some delegate) :
    m.declares .keyValueStore = true := by
  obtain ⟨content, hcontent, -⟩ := Option.bind_eq_some_iff.mp h
  obtain ⟨a, ha, hstore⟩ := List.exists_of_findSome?_eq_some hcontent
  refine List.any_eq_true.mpr ⟨a, ha, ?_⟩
  cases a <;> simp_all [Marker.keyValueStore?, Marker.source?]

namespace SourceOptions

variable {own : SourceOptions} (reference : SourceOptions)

/-- Beside another method, one that declares the store with a delegate keeps its options of the store. -/
theorem store_beside_of_delegate {declares : SourceKind → Bool} (hdeclares : declares .keyValueStore = true)
    (hdelegate : own.keyValueStore.delegateType.isSome = true) :
    (own.beside reference declares).keyValueStore = own.keyValueStore := by
  rw [beside, if_pos hdeclares, if_pos hdelegate]

/-- A method without a delegate has that of the other and its field, whether or not it declares the store. -/
theorem store_beside_of_none (declares : SourceKind → Bool) (hnone : own.keyValueStore.delegateType = none) :
    (own.beside reference declares).keyValueStore.delegateType = reference.keyValueStore.delegateType ∧
      (own.beside reference declares).keyValueStore.storageFieldName = reference.keyValueStore.storageFieldName := by
  unfold beside
  rw [hnone]
  cases declares .keyValueStore <;> exact ⟨rfl, rfl⟩

end SourceOptions

/-- What the members of a list give has no repetitions exactly when no two members give the same. -/
theorem nodup_filterMap_iff {α β : Type} {l : List α} (hl : l.Nodup) (f : α → Option β) :
    (l.filterMap f).Nodup ↔ ∀ a ∈ l, ∀ b ∈ l, ∀ x, f a = some x → f b = some x → a = b := by
  rw [List.Nodup, List.pairwise_filterMap]
  constructor
  · intro hpairwise a ha b hb x hx hx'
    by_contra hne
    have hsymm : Std.Symm fun a b : α => ∀ x, f a = some x → ∀ y, f b = some y → x ≠ y :=
      ⟨fun a b h x hx y hy => (h y hy x hx).symm⟩
    exact hpairwise.forall ha hb hne x hx x hx' rfl
  · intro hinj
    apply hl.pairwise_of_forall_ne
    rintro a ha b hb hne x hx y hy rfl
    exact hne (hinj a ha b hb x hx hy)

namespace Interface

/-! ## The method of a delegate -/

/-- The method that the delegate of a method comes from: the reused one, if the method gives none itself and the handle of the
other is built. -/
def delegateMethod (i : Interface) (m : Method) : Method :=
  match m.reuseTarget.bind i.first? with
  | none => m
  | some s => if m.delegate?.isSome || s.isBound then m else s

/-- A method asks for a delegate that another one asks for: it declares the store, and the delegate comes from the other. -/
def TakesOverDelegate (i : Interface) (m : Method) : Prop :=
  m.declares .keyValueStore = true ∧ i.delegateMethod m ≠ m

instance (i : Interface) (m : Method) : Decidable (i.TakesOverDelegate m) :=
  inferInstanceAs (Decidable (_ ∧ _))

/-- What a method asks of the constructor if it declares the store: the delegate of the method that this comes from, for the
field of that one. -/
def storeDelegate? (i : Interface) (m : Method) : Option StoreDelegate :=
  if m.declares .keyValueStore then
    (i.delegateMethod m).delegate?.map (StoreDelegate.mk (storageFieldName (i.delegateMethod m).name))
  else none

variable {i : Interface} {d : Document} {outer : Defaults} {m s : Method} {r : RequestSpec} {target : String}

/-- A method that reuses no other has no delegate but its own. -/
theorem delegateMethod_of_alone (hnone : m.reuseTarget = none) : i.delegateMethod m = m := by
  rw [delegateMethod, hnone]
  rfl

theorem delegateMethod_of_reuse (hreuse : m.reuseTarget = some target) (hfirst : i.first? target = some s) :
    i.delegateMethod m = if m.delegate?.isSome || s.isBound then m else s := by
  rw [delegateMethod, hreuse, Option.bind_some, hfirst]

/-- A method that gives a delegate uses it. -/
theorem delegateMethod_of_delegate {delegate : String} (h : m.delegate? = some delegate) : i.delegateMethod m = m := by
  unfold delegateMethod
  split
  · rfl
  · rw [h, Option.isSome_some, Bool.true_or, if_pos rfl]

/-- When no name is repeated, the method that a reuse means is the first of its name, a request that reuses no other. -/
theorem first?_of_reusable {method : String} (hrepeat : i.repeatErrors = []) (hone : i.reusable method target = [s]) :
    i.first? target = some s ∧ s ∈ i.declaredRequests ∧ s.reuseTarget = none ∧ s.name = target := by
  obtain ⟨hs, hnone, rfl, -⟩ := mem_reusable.mp (hone ▸ List.mem_singleton_self s)
  exact ⟨first?_of_mem hrepeat (mem_declaredRequests.mp hs).1, hs, hnone, rfl⟩

/-- The delegate of a request and its field are those of the method that the delegate comes from. -/
theorem delegate_of_resolved? (hrepeat : i.repeatErrors = []) (h : i.resolved? (d.defaults outer) m = some r) :
    r.sources.keyValueStore.options.delegateType = (i.delegateMethod m).delegate? ∧
      r.sources.keyValueStore.options.storageFieldName = storageFieldName (i.delegateMethod m).name := by
  have hoptions := optionsBy_of_resolved? h
  have hreuses := reuses_of_resolved? h
  cases hreuse : m.reuseTarget with
  | none =>
    have hown := congrArg SourceOptions.keyValueStore (hoptions.alone (hreuses.trans hreuse))
    rw [delegateMethod_of_alone hreuse]
    exact ⟨congrArg KeyValueStoreOptions.delegateType hown, congrArg KeyValueStoreOptions.storageFieldName hown⟩
  | some target =>
    obtain ⟨s, hone, hbound, hbuilt⟩ := hoptions.reference target (hreuses.trans hreuse)
    obtain ⟨hfirst, -⟩ := first?_of_reusable hrepeat hone
    rw [delegateMethod_of_reuse hreuse hfirst]
    cases hs : s.isBound with
    | true =>
      have hown := congrArg SourceOptions.keyValueStore (hbound hs)
      rw [Bool.or_true, if_pos rfl]
      exact ⟨congrArg KeyValueStoreOptions.delegateType hown, congrArg KeyValueStoreOptions.storageFieldName hown⟩
    | false =>
      have hbeside := congrArg SourceOptions.keyValueStore (hbuilt hs)
      rw [Bool.or_false]
      cases hdelegate : m.delegate? with
      | some delegate =>
        have hgiven : (m.ownOptions i d outer).keyValueStore.delegateType.isSome = true :=
          Option.isSome_iff_exists.mpr ⟨delegate, hdelegate⟩
        have hown := hbeside.trans (SourceOptions.store_beside_of_delegate _ (Method.declares_store hdelegate) hgiven)
        exact ⟨congrArg KeyValueStoreOptions.delegateType hown, congrArg KeyValueStoreOptions.storageFieldName hown⟩
      | none =>
        have hnone : (m.ownOptions i d outer).keyValueStore.delegateType = none := hdelegate
        obtain ⟨htype, hfield⟩ := SourceOptions.store_beside_of_none (s.ownOptions i d outer) m.declares hnone
        exact ⟨(congrArg KeyValueStoreOptions.delegateType hbeside).trans htype,
          (congrArg KeyValueStoreOptions.storageFieldName hbeside).trans hfield⟩

/-- The delegate of a request comes from its own method, or from the one that it reuses, which reuses no other and whose handle is
built. -/
theorem delegateMethod_of_resolved? (hrepeat : i.repeatErrors = []) (h : i.resolved? outer m = some r) :
    i.delegateMethod m = m ∨
      ∃ s target, i.delegateMethod m = s ∧ m.reuseTarget = some target ∧ s.name = target ∧ s ∈ i.declaredRequests ∧
        s.reuseTarget = none ∧ s.isBound = false ∧ r.EnabledBeside m s := by
  have hreuses := reuses_of_resolved? h
  cases hreuse : m.reuseTarget with
  | none => exact Or.inl (delegateMethod_of_alone hreuse)
  | some target =>
    obtain ⟨s, hone, hbeside⟩ := (enabledBy_of_resolved? h).reference target (hreuses.trans hreuse)
    obtain ⟨hfirst, hs, hnone, hname⟩ := first?_of_reusable hrepeat hone
    rw [delegateMethod_of_reuse hreuse hfirst]
    split
    · exact Or.inl rfl
    · rename_i hother
      obtain ⟨-, hbound⟩ := not_or.mp (Bool.or_eq_true _ _ ▸ hother)
      exact Or.inr ⟨s, target, rfl, rfl, hname, hs, hnone, Bool.eq_false_iff.mpr hbound, hbeside⟩

/-! ## What the constructor is asked for -/

theorem storeDelegate?_eq_some_iff {x : StoreDelegate} :
    i.storeDelegate? m = some x ↔
      m.declares .keyValueStore = true ∧ (i.delegateMethod m).delegate? = some x.delegateType ∧
        storageFieldName (i.delegateMethod m).name = x.fieldName := by
  obtain ⟨field, delegate⟩ := x
  unfold storeDelegate?
  cases m.declares .keyValueStore <;> simp

/-- A request asks the constructor for what its method asks for. -/
theorem storeDelegate?_of_resolved? (hrepeat : i.repeatErrors = []) (h : i.resolved? (d.defaults outer) m = some r) :
    r.storeDelegate? = i.storeDelegate? m := by
  obtain ⟨htype, hfield⟩ := delegate_of_resolved? hrepeat h
  have hdeclared : r.sources.keyValueStore.declared = m.declares .keyValueStore :=
    congrFun (enabledBy_of_resolved? h).declared .keyValueStore
  rw [RequestSpec.storeDelegate?, htype, hfield, hdeclared, storeDelegate?]

/-- When nothing is wrong with an interface, its constructor is asked for what the methods ask for. -/
theorem storeDelegates_eq (h : i.allErrors (d.defaults outer) = []) :
    (i.spec (d.defaults outer)).constructorShape.storeDelegates = i.declaredRequests.filterMap i.storeDelegate? := by
  have hrepeat := repeatErrors_eq_nil h
  show (i.spec (d.defaults outer)).requests.filterMap RequestSpec.storeDelegate? = _
  rw [spec_requests_eq, definitions_eq hrepeat, List.filterMap_filterMap]
  apply List.filterMap_congr
  intro m hm
  obtain ⟨hm, hrequest⟩ := List.mem_filter.mp hm
  obtain ⟨r, hr⟩ := exists_resolved h hm hrequest
  rw [hr, Option.bind_some, storeDelegate?_of_resolved? hrepeat hr]

/-- A method that declares the store and reuses no other gives a delegate itself, unless its handle comes through the
constructor. -/
theorem exists_delegate_of_alone (h : i.resolved? (d.defaults outer) m = some r) (hnone : m.reuseTarget = none)
    (hdeclared : m.declares .keyValueStore = true) (hlocal : m.isBound = false) : ∃ delegate, m.delegate? = some delegate := by
  obtain ⟨hprepare, hvalid⟩ := (m.standalone_eq_ok_iff _ r).mp ((resolved?_eq_standalone hnone).mp h)
  have hreuses : r.reuses = none := (reuses_of_resolved? h).trans hnone
  have henabled : r.sources.keyValueStore.enabled = true :=
    (congrFun ((enabledBy_of_resolved? h).alone hreuses) .keyValueStore).trans hdeclared
  have hbound : r.boundInConstructor = false := (Method.markers_of_prepare hprepare).2.2.trans hlocal
  have htype : r.sources.keyValueStore.options.delegateType = m.delegate? :=
    congrArg (·.keyValueStore.delegateType) (Method.options_of_prepare hprepare)
  exact Option.isSome_iff_exists.mp (htype ▸ hvalid.delegate henabled hbound)

/-- A method takes over a delegate that another request gives and asks for. -/
theorem exists_delegate_of_takesOver (h : i.allErrors (d.defaults outer) = []) (hm : m ∈ i.declaredRequests)
    (htakes : i.TakesOverDelegate m) :
    i.delegateMethod m ∈ i.declaredRequests ∧ ∃ delegate, (i.delegateMethod m).delegate? = some delegate := by
  obtain ⟨hdeclared, hne⟩ := htakes
  have hresolved : ∀ n ∈ i.declaredRequests, ∃ r, i.resolved? (d.defaults outer) n = some r := fun n hn =>
    exists_resolved h (mem_declaredRequests.mp hn).1 (mem_declaredRequests.mp hn).2
  obtain ⟨r, hr⟩ := hresolved m hm
  rcases delegateMethod_of_resolved? (repeatErrors_eq_nil h) hr with
    hown | ⟨s, target, rfl, -, -, hs, hnone, hlocal, hbeside⟩
  · exact absurd hown hne
  · obtain ⟨q, hq⟩ := hresolved _ hs
    have hstore := (hbeside.built hlocal (Or.inl ⟨_, hdeclared⟩)).2 _ hdeclared
    exact ⟨hs, exists_delegate_of_alone hq hnone hstore hlocal⟩

/-- The constructor is asked for no delegate twice exactly when no method takes over the delegate of another, and no two methods
give delegates of one type for one field. -/
theorem nodup_storeDelegates_iff (h : i.allErrors (d.defaults outer) = []) :
    (i.spec (d.defaults outer)).constructorShape.storeDelegates.Nodup ↔
      (∀ m ∈ i.declaredRequests, ¬i.TakesOverDelegate m) ∧
        ∀ m ∈ i.declaredRequests, ∀ n ∈ i.declaredRequests, ∀ delegate, m.delegate? = some delegate →
          n.delegate? = some delegate → storageFieldName m.name = storageFieldName n.name → m = n := by
  have hnodup : i.declaredRequests.Nodup :=
    (List.Nodup.of_map _ (nodup_names (repeatErrors_eq_nil h))).filter _
  -- a method that gives a delegate asks for it
  have hasks : ∀ {m delegate}, m.delegate? = some delegate →
      i.storeDelegate? m = some ⟨storageFieldName m.name, delegate⟩ := by
    intro m delegate hdelegate
    rw [storeDelegate?_eq_some_iff, delegateMethod_of_delegate hdelegate]
    exact ⟨Method.declares_store hdelegate, hdelegate, rfl⟩
  rw [storeDelegates_eq h, nodup_filterMap_iff hnodup]
  constructor
  · intro hinj
    refine ⟨fun m hm htakes => ?_, fun m hm n hn delegate hdelegate hdelegate' hfield => ?_⟩
    · obtain ⟨hs, delegate, hdelegate⟩ := exists_delegate_of_takesOver h hm htakes
      have hsame := hinj m hm _ hs _ (storeDelegate?_eq_some_iff.mpr ⟨htakes.1, hdelegate, rfl⟩) (hasks hdelegate)
      exact htakes.2 hsame.symm
    · exact hinj m hm n hn _ (hasks hdelegate) (hfield ▸ hasks hdelegate')
  · rintro ⟨hown, hfields⟩ m hm n hn x hx hx'
    obtain ⟨hdeclared, hdelegate, hfield⟩ := storeDelegate?_eq_some_iff.mp hx
    obtain ⟨hdeclared', hdelegate', hfield'⟩ := storeDelegate?_eq_some_iff.mp hx'
    have hself : ∀ {k}, k ∈ i.declaredRequests → k.declares .keyValueStore = true → i.delegateMethod k = k :=
      fun hk hdeclared => not_not.mp fun hne => hown _ hk ⟨hdeclared, hne⟩
    rw [hself hm hdeclared] at hdelegate hfield
    rw [hself hn hdeclared'] at hdelegate' hfield'
    exact hfields m hm n hn _ hdelegate hdelegate' (hfield.trans hfield'.symm)

/-! ## Fields of different handles -/

/-- The handle of a request has the name of the one that the method of its delegate reuses, or else of this method. -/
theorem bindingName_eq_of_resolved? (hrepeat : i.repeatErrors = []) (h : i.resolved? outer m = some r) :
    r.bindingName = (i.delegateMethod m).reuseTarget.getD (i.delegateMethod m).name := by
  obtain ⟨own, hprepare, hresolve, -⟩ := (i.resolved?_eq_some_iff outer m r).mp h
  have hbinding := RequestSpec.bindingName_of_resolveReuse (Method.prepared_of_prepare hprepare) hresolve
  rw [reuses_of_resolved? h, Entry.name_of_spec? h] at hbinding
  rw [hbinding]
  rcases delegateMethod_of_resolved? hrepeat h with hown | ⟨s, target, rfl, hreuse, hname, -, hnone, -, -⟩
  · rw [hown]
  · rw [hreuse, hnone, Option.getD_some, Option.getD_none, hname]

/-- The method of a delegate is a method of the interface. -/
theorem delegateMethod_mem (hrepeat : i.repeatErrors = []) (hm : m ∈ i.methods) (h : i.resolved? outer m = some r) :
    i.delegateMethod m ∈ i.methods := by
  rcases delegateMethod_of_resolved? hrepeat h with hown | ⟨s, target, rfl, -, -, hs, -⟩
  · rwa [hown]
  · exact (mem_declaredRequests.mp hs).1

/-- The delegates of requests with different handles come from methods of different names. -/
theorem delegateMethod_name_ne {n : Method} {q : RequestSpec} (hrepeat : i.repeatErrors = []) (hm : m ∈ i.methods)
    (hn : n ∈ i.methods) (hr : i.resolved? outer m = some r) (hq : i.resolved? outer n = some q)
    (hbinding : r.bindingName ≠ q.bindingName) : (i.delegateMethod m).name ≠ (i.delegateMethod n).name := by
  intro hname
  have hfirst := first?_of_mem hrepeat (delegateMethod_mem hrepeat hm hr)
  have hfirst' := first?_of_mem hrepeat (delegateMethod_mem hrepeat hn hq)
  rw [hname, hfirst', Option.some_inj] at hfirst
  apply hbinding
  rw [bindingName_eq_of_resolved? hrepeat hr, bindingName_eq_of_resolved? hrepeat hq, hfirst]

end Interface

/-! ## Documents that build -/

variable {d : Document} {outer : Defaults} {system : ResolvedSystem} {spec : InterfaceSpec}

/-- In a document that builds, the constructor of an interface is asked for no delegate twice exactly when no method declares
the store and takes over the delegate of another one, and no two methods give delegates of one type for one field. -/
theorem storeDelegates_nodup_iff_of_build (hbuild : d.build outer = .ok system) (hspec : spec ∈ system.interfaces.values) :
    ∃ i ∈ d.interfaces, i.name = spec.name ∧
      (spec.constructorShape.storeDelegates.Nodup ↔
        (∀ m ∈ i.declaredRequests, ¬i.TakesOverDelegate m) ∧
          ∀ m ∈ i.declaredRequests, ∀ n ∈ i.declaredRequests, ∀ delegate, m.delegate? = some delegate →
            n.delegate? = some delegate → storageFieldName m.name = storageFieldName n.name → m = n) := by
  obtain ⟨i, hi, herrors, rfl⟩ := Document.exists_of_build hbuild hspec
  exact ⟨i, hi, rfl, Interface.nodup_storeDelegates_iff herrors⟩

/-- Methods that give delegates of their own, one of them beside the method that it reuses, and a request that inherits a
delegate. -/
def keptItems : Document where
  interfaces :=
    [{ name := "Items"
       methods :=
        [{ name := "items", returnType := .wrapping .request "Item",
           markers := [.network {}, .keyValueStore { delegate := some "ItemDelegate" }] },
         { name := "freshItem", returnType := .wrapping .request "Item",
           markers := [.reuse "items", .targets, .keyValueStore { delegate := some "ItemDelegate" }] },
         { name := "fetchItem", returnType := .wrapping .request "Item", markers := [.reuse "items", .targets, .network {}] },
         { name := "notes", returnType := .wrapping .request "Note",
           markers := [.keyValueStore { delegate := some "NoteDelegate" }] }] }]

/-- The constructor is asked for three delegates, two of which have one type. -/
theorem keptItems_storeDelegates :
    ∃ system, keptItems.build {} = .ok system ∧ ∃ spec ∈ system.interfaces.values,
      spec.constructorShape.storeDelegates.map (·.delegateType) = ["ItemDelegate", "ItemDelegate", "NoteDelegate"] ∧
        spec.constructorShape.storeDelegates.Nodup := by
  obtain ⟨system, hbuild, spec, hspec, htypes⟩ : ∃ system, keptItems.build {} = .ok system ∧
      ∃ spec ∈ system.interfaces.values,
        spec.constructorShape.storeDelegates.map (·.delegateType) = ["ItemDelegate", "ItemDelegate", "NoteDelegate"] :=
    ⟨_, rfl, by decide⟩
  refine ⟨system, hbuild, spec, hspec, htypes, ?_⟩
  obtain ⟨i, hi, -, hiff⟩ := storeDelegates_nodup_iff_of_build hbuild hspec
  have hown : ∀ i ∈ keptItems.interfaces, ∀ m ∈ i.declaredRequests, ¬i.TakesOverDelegate m := by decide
  have hfields : ∀ i ∈ keptItems.interfaces, ∀ m ∈ i.declaredRequests, ∀ n ∈ i.declaredRequests,
      storageFieldName m.name = storageFieldName n.name → m = n := by decide
  exact hiff.mpr ⟨hown i hi, fun m hm n hn _ _ _ => hfields i hi m hm n hn⟩

/-- A method that declares the store again and gives no delegate asks the constructor for the delegate that the method it reuses
asks for. -/
theorem storedItems_storeDelegates_not_nodup :
    ¬∀ system, storedItems.build {} = .ok system → ∀ spec ∈ system.interfaces.values,
      spec.constructorShape.storeDelegates.Nodup := by
  intro hall
  obtain ⟨system, hbuild, spec, hspec, htwice⟩ : ∃ system, storedItems.build {} = .ok system ∧
      ∃ spec ∈ system.interfaces.values, ¬spec.constructorShape.storeDelegates.Nodup := ⟨_, rfl, by decide⟩
  exact htwice (hall system hbuild spec hspec)

/-- In a document that builds, requests with different handles have their delegates from methods of different names, and keep
them in different fields exactly when the fields named after these methods differ; they do for names in lower camel case. -/
theorem storageField_ne_iff_of_build {r q : RequestSpec} (hbuild : d.build outer = .ok system)
    (hspec : spec ∈ system.interfaces.values) (hr : r ∈ spec.requests) (hq : q ∈ spec.requests)
    (hbinding : r.bindingName ≠ q.bindingName) :
    ∃ i ∈ d.interfaces, i.name = spec.name ∧ ∃ m n, i.first? r.name = some m ∧ i.first? q.name = some n ∧
      (i.delegateMethod m).name ≠ (i.delegateMethod n).name ∧
      (r.sources.keyValueStore.options.storageFieldName ≠ q.sources.keyValueStore.options.storageFieldName ↔
        storageFieldName (i.delegateMethod m).name ≠ storageFieldName (i.delegateMethod n).name) ∧
      (Text.isLowerCamel (i.delegateMethod m).name = true → Text.isLowerCamel (i.delegateMethod n).name = true →
        r.sources.keyValueStore.options.storageFieldName ≠ q.sources.keyValueStore.options.storageFieldName) := by
  obtain ⟨i, hi, herrors, rfl⟩ := Document.exists_of_build hbuild hspec
  have hrepeat := Interface.repeatErrors_eq_nil herrors
  obtain ⟨m, hfirst, -, hresolved⟩ := (i.mem_spec_requests _ r).mp hr
  obtain ⟨n, hfirst', -, hresolved'⟩ := (i.mem_spec_requests _ q).mp hq
  have hname := Interface.delegateMethod_name_ne hrepeat (Interface.mem_of_first? hfirst) (Interface.mem_of_first? hfirst')
    hresolved hresolved' hbinding
  rw [(Interface.delegate_of_resolved? hrepeat hresolved).2, (Interface.delegate_of_resolved? hrepeat hresolved').2]
  exact ⟨i, hi, rfl, m, n, hfirst, hfirst', hname, Iff.rfl, fun hm hn hfield => hname (storageFieldName_inj hm hn hfield)⟩

/-- The request that inherits the delegate of the items finds it in another field than the one of the notes. -/
theorem keptItems_storageField_ne :
    ∃ system, keptItems.build {} = .ok system ∧ ∃ spec ∈ system.interfaces.values,
      ∃ r ∈ spec.requests, ∃ q ∈ spec.requests, (r.name = "fetchItem" ∧ q.name = "notes" ∧ r.bindingName ≠ q.bindingName) ∧
        r.sources.keyValueStore.options.storageFieldName ≠ q.sources.keyValueStore.options.storageFieldName := by
  obtain ⟨system, hbuild, spec, hspec, r, hr, q, hq, hnames⟩ : ∃ system, keptItems.build {} = .ok system ∧
      ∃ spec ∈ system.interfaces.values, ∃ r ∈ spec.requests, ∃ q ∈ spec.requests,
        r.name = "fetchItem" ∧ q.name = "notes" ∧ r.bindingName ≠ q.bindingName := ⟨_, rfl, by decide⟩
  refine ⟨system, hbuild, spec, hspec, r, hr, q, hq, hnames, ?_⟩
  obtain ⟨i, hi, -, m, n, hm, hn, -, -, hdifferent⟩ := storageField_ne_iff_of_build hbuild hspec hr hq hnames.2.2
  have hcamel : ∀ i ∈ keptItems.interfaces, ∀ m ∈ i.methods, Text.isLowerCamel (i.delegateMethod m).name = true := by decide
  exact hdifferent (hcamel i hi m (Interface.mem_of_first? hm)) (hcamel i hi n (Interface.mem_of_first? hn))

/-- Two methods whose names differ in how their words are set off, with delegates of different types. -/
def twinItems : Document where
  interfaces :=
    [{ name := "Items"
       methods :=
        [{ name := "getItem", returnType := .wrapping .request "Item",
           markers := [.keyValueStore { delegate := some "ItemDelegate" }] },
         { name := "get_item", returnType := .wrapping .request "Note",
           markers := [.keyValueStore { delegate := some "NoteDelegate" }] }] }]

/-- Both keep their delegates in one field. -/
theorem twinItems_not_storageField_ne :
    ¬∀ system, twinItems.build {} = .ok system → ∀ spec ∈ system.interfaces.values,
      ∀ r ∈ spec.requests, ∀ q ∈ spec.requests,
        r.sources.keyValueStore.enabled = true → q.sources.keyValueStore.enabled = true →
        r.boundInConstructor = false → q.boundInConstructor = false → r.bindingName ≠ q.bindingName →
          r.sources.keyValueStore.options.storageFieldName ≠ q.sources.keyValueStore.options.storageFieldName := by
  intro hall
  obtain ⟨system, hbuild, spec, hspec, r, hr, q, hq, hstore, hstore', hlocal, hlocal', hbinding, hsame⟩ :
      ∃ system, twinItems.build {} = .ok system ∧ ∃ spec ∈ system.interfaces.values,
        ∃ r ∈ spec.requests, ∃ q ∈ spec.requests,
          r.sources.keyValueStore.enabled = true ∧ q.sources.keyValueStore.enabled = true ∧
          r.boundInConstructor = false ∧ q.boundInConstructor = false ∧ r.bindingName ≠ q.bindingName ∧
            r.sources.keyValueStore.options.storageFieldName = q.sources.keyValueStore.options.storageFieldName :=
    ⟨_, rfl, by decide⟩
  exact hall system hbuild spec hspec r hr q hq hstore hstore' hlocal hlocal' hbinding hsame

end DataRequests
