import DataRequests.Proofs.Provenance
import DataRequests.Proofs.System

/-!
# Where options come from

The options of a request are first those of its method (`Method.ownOptions`): what its markers give and, where they give nothing, what
the first of the layers over it gives. A reuse leaves them alone or replaces them kind by kind (`SourceOptions.beside`). The main
statement, `options_by_layers`, tells the options of every request in the output by markers and layers.
-/

namespace DataRequests

/-! ## Layers -/

/-- The first of some values that is present. -/
def firstPresent {α : Type} (values : List (Option α)) : Option α :=
  values.findSome? id

theorem firstPresent_cons {α : Type} (value : Option α) (rest : List (Option α)) :
    firstPresent (value :: rest) = value.or (firstPresent rest) := by
  cases value <;> rfl

/-- What the layers that may set every option set for one of them, the nearest first: those of the interface and of the document, and
the outermost defaults. -/
def Interface.layers (i : Interface) (d : Document) (outer : Defaults) (option : Defaults → Option String) :
    List (Option String) :=
  [i.config.bind option, d.config.bind option, option outer]

/-- An option of a layer with another one over it, if there is one, is that of the higher layer where this sets it. -/
theorem Defaults.overlay?_option {option : Defaults → Option String}
    (hoption : ∀ lower higher, option (overlay lower higher) = (option higher).or (option lower)) (lower : Defaults)
    (higher : Option Defaults) : option (lower.overlay? higher) = (higher.bind option).or (option lower) := by
  cases higher with
  | none => rfl
  | some higher => exact hoption lower higher

/-- An option that the methods of an interface see by default is the first one that the layers set, the network block before the
others. -/
theorem Interface.defaults_option (i : Interface) (d : Document) (outer : Defaults) (option : Defaults → Option String)
    (hoption : ∀ lower higher, option (Defaults.overlay lower higher) = (option higher).or (option lower)) :
    option (i.defaults (d.defaults outer)) =
      firstPresent ((i.network.map NetworkDefaults.layer).bind option :: i.layers d outer option) := by
  simp only [defaults, Document.defaults, Defaults.forInterface, Defaults.overlay?_option hoption, layers, firstPresent_cons]
  simp [firstPresent]

/-! ## The options of a method -/

/-- The options of the four kinds. -/
structure SourceOptions where
  network : NetworkOptions
  database : DatabaseOptions
  memory : MemoryOptions
  keyValueStore : KeyValueStoreOptions
  deriving DecidableEq, Repr

/-- The options of the four kinds, whether or not a kind is enabled. -/
def SourceConfigs.options (s : SourceConfigs) : SourceOptions :=
  ⟨s.network.options, s.database.options, s.memory.options, s.keyValueStore.options⟩

/-- Whether a method returns one value and not a list. -/
def Method.isSingleResult (m : Method) : Bool :=
  (ReturnShape.ofType m.returnType m.isController).toOption.all (·.isSingleResult)

/-- The options that a method of an interface has before it reuses another one. What its markers leave unset is set by the first layer
that sets it; the network block of the interface sets transforms and no refresh strategy. -/
def Method.ownOptions (m : Method) (i : Interface) (d : Document) (outer : Defaults) : SourceOptions :=
  let own := Markers.ofFirst m.markers
  let refresh := fun value : Option String => firstPresent (value :: i.layers d outer (·.refreshStrategy))
  { network :=
      { responseTransform := firstPresent
          (own.network.bind (·.responseTransform) :: i.network.bind (·.responseTransform) ::
            i.layers d outer (·.responseTransform))
        errorTransform := firstPresent
          (own.network.bind (·.errorTransform) :: i.network.bind (·.errorTransform) :: i.layers d outer (·.errorTransform))
        refreshStrategy := refresh (own.network.bind (·.refreshStrategy))
        callReturnType := own.network.bind (·.callReturnType)
        transport := own.transport }
    database :=
      { isSingleResult := m.isSingleResult
        isAsync := own.database.any (·.isAsync)
        refreshStrategy := refresh (own.database.bind (·.refreshStrategy)) }
    memory := { refreshStrategy := refresh (own.memory.bind (·.refreshStrategy)) }
    keyValueStore :=
      { delegateType := own.keyValueStore.bind (·.delegate)
        storageFieldName := storageFieldName m.name
        refreshStrategy := refresh (own.keyValueStore.bind (·.refreshStrategy)) } }

/-- The options that markers give, each absent where there is no marker. -/
theorem Markers.options_sources (markers : Markers) (method : String) (isSingleResult : Bool) :
    (markers.sources method isSingleResult).options =
      { network :=
          { responseTransform := markers.network.bind (·.responseTransform)
            errorTransform := markers.network.bind (·.errorTransform)
            refreshStrategy := markers.network.bind (·.refreshStrategy)
            callReturnType := markers.network.bind (·.callReturnType)
            transport := markers.transport }
        database :=
          { isSingleResult := isSingleResult
            isAsync := markers.database.any (·.isAsync)
            refreshStrategy := markers.database.bind (·.refreshStrategy) }
        memory := { refreshStrategy := markers.memory.bind (·.refreshStrategy) }
        keyValueStore :=
          { delegateType := markers.keyValueStore.bind (·.delegate)
            storageFieldName := storageFieldName method
            refreshStrategy := markers.keyValueStore.bind (·.refreshStrategy) } } := by
  unfold SourceConfigs.options Markers.sources
  congr 1
  · cases markers.network <;> cases markers.transport <;> rfl
  · cases markers.database <;> rfl
  · cases markers.memory <;> rfl
  · cases markers.keyValueStore <;> rfl

/-- The options of the four kinds with the defaults for what is unset. -/
def SourceOptions.withDefaults (o : SourceOptions) (d : Defaults) : SourceOptions where
  network := o.network.withDefaults d
  database := { o.database with refreshStrategy := o.database.refreshStrategy.or d.refreshStrategy }
  memory := { refreshStrategy := o.memory.refreshStrategy.or d.refreshStrategy }
  keyValueStore := { o.keyValueStore with refreshStrategy := o.keyValueStore.refreshStrategy.or d.refreshStrategy }

theorem SourceConfigs.options_withDefaults (s : SourceConfigs) (d : Defaults) :
    (s.withDefaults d).options = s.options.withDefaults d :=
  rfl

/-- The prepared spec of a method has the method's own options. -/
theorem Method.options_of_prepare {m : Method} {i : Interface} {d : Document} {outer : Defaults} {r : RequestSpec}
    (h : m.prepare (i.defaults (d.defaults outer)) = .ok r) : r.sources.options = m.ownOptions i d outer := by
  obtain ⟨-, -, -, shape, hshape, rfl⟩ := (m.scan_eq_ok_iff _ r).mp ((m.prepare_eq_ok_iff _ r).mp h).1
  have hsingle : m.isSingleResult = shape.isSingleResult := by
    have hcontroller : m.isController = (Markers.ofFirst m.markers).controller.isSome := rfl
    rw [isSingleResult, hcontroller, hshape]
    rfl
  have hresponse := i.defaults_option d outer (·.responseTransform) fun _ _ => rfl
  have herror := i.defaults_option d outer (·.errorTransform) fun _ _ => rfl
  have hrefresh := i.defaults_option d outer (·.refreshStrategy) fun _ _ => rfl
  have hblock : (i.network.map NetworkDefaults.layer).bind (·.refreshStrategy) = none := by
    cases i.network <;> rfl
  rw [hblock] at hrefresh
  rw [specOf, SourceConfigs.options_withDefaults, Markers.options_sources]
  simp only [SourceOptions.withDefaults, NetworkOptions.withDefaults, ownOptions, firstPresent_cons, hsingle, hresponse, herror,
    hrefresh, Option.bind_map, Function.comp_def, NetworkDefaults.layer, Option.none_or]

/-! ## What a reuse replaces -/

namespace SourceOptions

/-- Options with the shape of a database result that others have. -/
def shapedBy (own reference : SourceOptions) : SourceOptions :=
  { own with database := { own.database with isSingleResult := reference.database.isSingleResult } }

/-- The options of a method beside those of the method that it reuses: its own for the kinds that it declares, and those of the other
for the rest. A store that is declared without a delegate takes the delegate of the other, and the field that keeps it. -/
def beside (own reference : SourceOptions) (declares : SourceKind → Bool) : SourceOptions where
  network := if declares .network then own.network else reference.network
  database := if declares .database then own.database else reference.database
  memory := if declares .memory then own.memory else reference.memory
  keyValueStore :=
    if declares .keyValueStore then
      if own.keyValueStore.delegateType.isSome then own.keyValueStore
      else
        { own.keyValueStore with
          delegateType := reference.keyValueStore.delegateType
          storageFieldName := reference.keyValueStore.storageFieldName }
    else reference.keyValueStore

end SourceOptions

namespace RequestSpec

variable {reference : RequestSpec} (own : RequestSpec)

/-- Enabling the default kinds leaves the options alone. -/
theorem options_enableDefaults (r : RequestSpec) : r.enableDefaults.sources.options = r.sources.options := by
  unfold enableDefaults
  split <;> rfl

/-- A merge with a handle from the constructor keeps the method's own options, but for the shape of a database result. -/
theorem options_merge_of_bound (h : reference.boundInConstructor = true) :
    (own.merge reference).sources.options = own.sources.options.shapedBy reference.sources.options := by
  rw [merge, if_pos h, options_enableDefaults]
  rfl

/-- A merge with a handle that is built takes the options of the kinds that the method does not declare. -/
theorem options_merge_of_built (h : reference.boundInConstructor = false) :
    (own.merge reference).sources.options =
      own.sources.options.beside reference.sources.options own.sources.isDeclared := by
  have hdelegate : ∀ mine theirs : KeyValueStoreOptions, delegateFrom mine theirs =
      if mine.delegateType.isSome then mine
      else { mine with delegateType := theirs.delegateType, storageFieldName := theirs.storageFieldName } := by
    intro mine theirs
    unfold delegateFrom
    cases mine.delegateType <;> rfl
  rw [merge, if_neg (Bool.not_eq_true _ ▸ h), options_enableDefaults]
  simp only [overlayOn, pickOptions, hdelegate]
  rfl

end RequestSpec

/-! ## What is output -/

/-- Where the options of a request `r` of an interface come from, which is the spec of a method `m`. -/
structure Interface.OptionsBy (i : Interface) (d : Document) (outer : Defaults) (r : RequestSpec) (m : Method) : Prop where
  /-- Before the reuse the spec of the method has the method's own options. -/
  own : ∃ spec, m.prepare (i.defaults (d.defaults outer)) = .ok spec ∧ spec.sources.options = m.ownOptions i d outer
  /-- A method that reuses no other keeps them. -/
  alone : r.reuses = none → r.sources.options = m.ownOptions i d outer
  /-- A reuse has found a single method. If the handle of that one comes through the constructor, the shape of a database result is
  taken from it and nothing else, and otherwise the options of the kinds that are not declared. -/
  reference : ∀ target, r.reuses = some target → ∃ s, i.reusable r.name target = [s] ∧
    (s.isBound = true → r.sources.options = (m.ownOptions i d outer).shapedBy (s.ownOptions i d outer)) ∧
    (s.isBound = false → r.sources.options = (m.ownOptions i d outer).beside (s.ownOptions i d outer) m.declares)

/-- The options of the spec of a method come from markers and layers. -/
theorem Interface.optionsBy_of_resolved? {i : Interface} {d : Document} {outer : Defaults} {r : RequestSpec} {m : Method}
    (h : i.resolved? (d.defaults outer) m = some r) : i.OptionsBy d outer r m := by
  obtain ⟨own, hprepare, hresolve, -⟩ := (i.resolved?_eq_some_iff _ m r).mp h
  have hown := Method.options_of_prepare hprepare
  have hdeclared := (Method.markers_of_prepare hprepare).1
  refine ⟨⟨own, hprepare, hown⟩, fun hnone => ?_, fun target hsome => ?_⟩
  · rw [(RequestSpec.resolveReuse_keeps hresolve).1] at hnone
    rw [RequestSpec.resolveReuse, show own.reuses = none from hnone] at hresolve
    cases hresolve
    exact hown
  · rcases (own.resolveReuse_eq_ok_iff _ r).mp hresolve with ⟨hnone, rfl⟩ | ⟨other, handle, hother, hlookup, -, rfl⟩
    · cases hnone.symm.trans hsome
    · rw [RequestSpec.merge_eq] at hsome ⊢
      cases hother.symm.trans hsome
      obtain ⟨s, hone, hs⟩ := lookup_pool_eq_ok_iff.mp hlookup
      have hhandle := ((s.standalone_eq_ok_iff _ handle).mp hs).1
      have hreference := Method.options_of_prepare hhandle
      have hbound := (Method.markers_of_prepare hhandle).2.2
      refine ⟨s, hone, fun hs => ?_, fun hs => ?_⟩
      · rw [← hown, ← hreference]
        exact RequestSpec.options_merge_of_bound own (hbound.trans hs)
      · rw [← hown, ← hreference, ← hdeclared]
        exact RequestSpec.options_merge_of_built own (hbound.trans hs)

/-- The options of every request in the output come from the markers of its method and of the method that it reuses, and where these
leave one unset from the first layer that sets it. -/
theorem options_by_layers {d : Document} {outer : Defaults} {spec : InterfaceSpec} {r : RequestSpec}
    (hspec : spec ∈ (d.resolve outer).1.interfaces.values) (hr : r ∈ spec.requests) :
    ∃ i m, d.interfaces.find? (·.name = spec.name) = some i ∧ i.first? r.name = some m ∧ m.isRequest = true ∧
      i.OptionsBy d outer r m := by
  obtain ⟨i, hi, rfl⟩ := Document.exists_of_resolve hspec
  obtain ⟨m, hfirst, hrequest, hresolved⟩ := (i.mem_spec_requests (d.defaults outer) r).mp hr
  exact ⟨i, m, hi, hfirst, hrequest, Interface.optionsBy_of_resolved? hresolved⟩

/-- An interface with defaults of its own and a network block, in a document with defaults. One method declares the network and a
store, and another one reuses it and declares the two again, the store without a delegate. -/
def layeredItems : Document where
  config := some { responseTransform := some "DocumentResponse", refreshStrategy := some "Daily" }
  interfaces :=
    [{ name := "Items"
       config := some { errorTransform := some "InterfaceError" }
       network := some { errorTransform := some "NetworkError" }
       methods :=
        [{ name := "items", returnType := .wrapping .request "Item",
           markers := [.network { responseTransform := some "OwnResponse" }, .memory {},
             .keyValueStore { delegate := some "ItemDelegate" }] },
         { name := "getItem", returnType := .wrapping .request "Item",
           markers := [.reuse "items", .targets, .network {}, .keyValueStore { refreshStrategy := some "Hourly" }] }] }]

/-- The reusing method has its transforms from the document and the network block, and its delegate from the method that it reuses. -/
theorem layeredItems_options :
    ∃ spec ∈ (layeredItems.resolve { responseTransform := some "ProjectResponse" }).1.interfaces.values, ∃ r ∈ spec.requests,
      (r.name = "getItem" ∧ r.sources.network.options.responseTransform = some "DocumentResponse" ∧
        r.sources.network.options.errorTransform = some "NetworkError" ∧
        r.sources.keyValueStore.options.delegateType = some "ItemDelegate" ∧
        r.sources.keyValueStore.options.refreshStrategy = some "Hourly" ∧
        r.sources.memory.options.refreshStrategy = some "Daily") ∧
      ∃ i m, layeredItems.interfaces.find? (·.name = spec.name) = some i ∧ i.first? r.name = some m ∧ m.isRequest = true ∧
        i.OptionsBy layeredItems { responseTransform := some "ProjectResponse" } r m := by
  obtain ⟨spec, hspec, r, hr, hoptions⟩ :
      ∃ spec ∈ (layeredItems.resolve { responseTransform := some "ProjectResponse" }).1.interfaces.values,
        ∃ r ∈ spec.requests,
          r.name = "getItem" ∧ r.sources.network.options.responseTransform = some "DocumentResponse" ∧
            r.sources.network.options.errorTransform = some "NetworkError" ∧
            r.sources.keyValueStore.options.delegateType = some "ItemDelegate" ∧
            r.sources.keyValueStore.options.refreshStrategy = some "Hourly" ∧
            r.sources.memory.options.refreshStrategy = some "Daily" := by
    decide
  exact ⟨spec, hspec, r, hr, hoptions, options_by_layers hspec hr⟩

end DataRequests
