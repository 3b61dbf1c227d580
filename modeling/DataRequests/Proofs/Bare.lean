import DataRequests.Proofs.Arena
import DataRequests.Proofs.Sources
import DataRequests.Request.Plan
import DataRequests.Resolution.System

/-!
# Specs without the options that defaults set

A layer of defaults sets transforms and refresh strategies. A spec is made bare by taking these options out (`bare`), and every stage
that a spec goes through reads the others alone: it gives bare results for bare arguments, and the same faults (`finish_bare`).
-/

namespace DataRequests

/-! ## Bare specs -/

/-- A configuration with its options changed. -/
def SourceConfig.mapOptions {Options : Type} (f : Options → Options) (c : SourceConfig Options) : SourceConfig Options :=
  { c with options := f c.options }

/-- Network options without those that a default may set. -/
def NetworkOptions.bare (o : NetworkOptions) : NetworkOptions :=
  { o with responseTransform := none, errorTransform := none, refreshStrategy := none }

/-- Database options without those that a default may set. -/
def DatabaseOptions.bare (o : DatabaseOptions) : DatabaseOptions :=
  { o with refreshStrategy := none }

/-- Memory options without those that a default may set: there are no others. -/
def MemoryOptions.bare (_ : MemoryOptions) : MemoryOptions :=
  { refreshStrategy := none }

/-- Options of a key-value store without those that a default may set. -/
def KeyValueStoreOptions.bare (o : KeyValueStoreOptions) : KeyValueStoreOptions :=
  { o with refreshStrategy := none }

/-- Source configurations without the options that a default may set. -/
def SourceConfigs.bare (s : SourceConfigs) : SourceConfigs where
  network := s.network.mapOptions NetworkOptions.bare
  database := s.database.mapOptions DatabaseOptions.bare
  memory := s.memory.mapOptions MemoryOptions.bare
  keyValueStore := s.keyValueStore.mapOptions KeyValueStoreOptions.bare

/-- A request without the options that a default may set. -/
def RequestSpec.bare (r : RequestSpec) : RequestSpec :=
  { r with sources := r.sources.bare }

/-- The specs of an interface without the options that a default may set. -/
def InterfaceSpec.bare (i : InterfaceSpec) : InterfaceSpec :=
  { i with requests := i.requests.map RequestSpec.bare }

/-- A pool of bare handles. -/
def Pool.bare (p : Pool) : Pool :=
  { p with handles := p.handles.map RequestSpec.bare }

/-- A system of bare specs. -/
def ResolvedSystem.bare (s : ResolvedSystem) : ResolvedSystem :=
  ⟨s.interfaces.map InterfaceSpec.bare⟩

namespace RequestSpec

/-- Which kinds are declared can be told from the bare spec. -/
@[simp]
theorem isDeclared_bare (r : RequestSpec) : r.bare.sources.isDeclared = r.sources.isDeclared := by
  funext kind
  cases kind <;> rfl

theorem declaresAny_bare (r : RequestSpec) : r.bare.sources.declaresAny = r.sources.declaresAny :=
  SourceConfigs.declaresAny_congr r.isDeclared_bare

/-! ## Stages -/

/-- Whether a spec has an intent can be told from the bare spec. -/
theorem intentFault?_bare (r : RequestSpec) : r.bare.intentFault? = r.intentFault? := by
  unfold intentFault?
  rw [declaresAny_bare]
  rfl

/-- What is wrong with a spec can be told from the bare spec. -/
theorem faults_bare (r : RequestSpec) : r.bare.faults = r.faults :=
  rfl

/-- A bare spec is validated as the spec is. -/
theorem validate_bare (r : RequestSpec) : r.bare.validate = r.validate.map bare := by
  unfold validate
  rw [faults_bare]
  split <;> rfl

/-- The options of a kind are picked alike before and after all options are changed in one way. -/
theorem pickOptions_mapOptions {Options : Type} (f : Options → Options) (own reference : SourceConfig Options) :
    pickOptions (own.mapOptions f) (reference.mapOptions f) = (pickOptions own reference).mapOptions f := by
  unfold pickOptions SourceConfig.mapOptions
  cases own.declared <;> rfl

/-- A delegate is found alike for a bare store. -/
theorem delegateFrom_bare (own reference : KeyValueStoreOptions) :
    delegateFrom own.bare reference.bare = (delegateFrom own reference).bare := by
  obtain ⟨delegate, field, refresh⟩ := own
  cases delegate <;> rfl

theorem overlayOn_bare (own reference : RequestSpec) :
    own.bare.overlayOn reference.bare = (own.overlayOn reference).bare := by
  have hstore : ∀ mine theirs : SourceConfig KeyValueStoreOptions,
      pickOptions { mine.mapOptions KeyValueStoreOptions.bare with options := delegateFrom mine.options.bare theirs.options.bare }
          (theirs.mapOptions KeyValueStoreOptions.bare) =
        (pickOptions { mine with options := delegateFrom mine.options theirs.options } theirs).mapOptions
          KeyValueStoreOptions.bare := by
    intro mine theirs
    rw [← pickOptions_mapOptions, delegateFrom_bare]
    rfl
  simp only [overlayOn, bare, SourceConfigs.bare, pickOptions_mapOptions]
  congr 2
  exact hstore own.sources.keyValueStore reference.sources.keyValueStore

theorem enableDefaults_bare (r : RequestSpec) : r.bare.enableDefaults = r.enableDefaults.bare := by
  unfold enableDefaults
  rw [declaresAny_bare, apply_ite bare]
  rfl

/-- Two bare specs are merged as the specs are. -/
theorem merge_bare (own reference : RequestSpec) : own.bare.merge reference.bare = (own.merge reference).bare := by
  unfold merge
  rw [overlayOn_bare, ← enableDefaults_bare, apply_ite bare]
  rfl

end RequestSpec

/-- A lookup among bare handles is decided as it is among the handles. -/
theorem Pool.lookup_bare (p : Pool) (method target : String) :
    p.bare.lookup method target = (p.lookup method target).map RequestSpec.bare := by
  have hcandidates : p.bare.candidates method target = (p.candidates method target).map RequestSpec.bare :=
    List.filter_map
  have hfailures : p.bare.failures method target = p.failures method target := rfl
  have hchained : p.bare.chainedTarget? target = p.chainedTarget? target := rfl
  unfold lookup
  rw [hcandidates, hfailures, hchained]
  match p.candidates method target, p.failures method target with
  | [], 0 => rfl
  | [], 1 => rfl
  | [], _ + 2 => rfl
  | [_], 0 => rfl
  | [_], _ + 1 => rfl
  | _ :: _ :: rest, 0 => simp [Except.map]
  | _ :: _ :: rest, failures + 1 => simp [Except.map]

namespace RequestSpec

/-- The reuse of a bare spec is resolved among bare handles as that of the spec is among the handles. -/
theorem resolveReuse_bare (own : RequestSpec) (pool : Pool) :
    own.bare.resolveReuse pool.bare = (own.resolveReuse pool).map bare := by
  unfold resolveReuse
  have hreuses : own.bare.reuses = own.reuses := rfl
  have hname : own.bare.name = own.name := rfl
  rw [hreuses, hname]
  cases own.reuses with
  | none => rfl
  | some target =>
    simp only [Pool.lookup_bare]
    cases pool.lookup own.name target with
    | error fault => rfl
    | ok reference =>
      have htypes : (reference.bare.dataType = own.bare.dataType) = (reference.dataType = own.dataType) := rfl
      simp only [Except.map, merge_bare, htypes]
      split <;> rfl

/-- A bare spec is finished as the spec is. -/
theorem finish_bare (own : RequestSpec) (pool : Pool) : own.bare.finish pool.bare = (own.finish pool).map bare := by
  unfold finish
  rw [resolveReuse_bare]
  cases own.resolveReuse pool with
  | error fault => rfl
  | ok spec => exact spec.validate_bare

end RequestSpec

/-! ## What is decided -/

/-- What an interface is told to have by its requests can be told from the bare ones. -/
theorem InterfaceSpec.bare_ofMethods (name : String) (requests : List RequestSpec) (providers : List ProviderSpec) :
    (ofMethods name requests providers).bare = ofMethods name (requests.map RequestSpec.bare) providers := by
  simp only [ofMethods, bare, List.any_map]
  rfl

/-- What is decided about a request beside the options of its sources. -/
structure RequestDecisions where
  name : String
  enabled : List SourceKind
  declared : List SourceKind
  bindingName : String
  boundInConstructor : Bool
  optionalBinding : Bool
  handleSources : Option (List SourceKind)
  syncReadOrder : List SourceKind
  requestSources : List SourceKind
  targetSources : List SourceKind
  deriving DecidableEq, Repr

/-- What is decided about a request: its kinds, how it is bound, and its plans. -/
def RequestSpec.decisions (r : RequestSpec) : RequestDecisions where
  name := r.name
  enabled := r.sources.enabledKinds
  declared := r.sources.declaredKinds
  bindingName := r.bindingName
  boundInConstructor := r.boundInConstructor
  optionalBinding := r.optionalBinding
  handleSources := r.handleSources
  syncReadOrder := r.syncReadOrder
  requestSources := r.requestSources
  targetSources := r.targetSources

/-- What is decided about the requests of an interface, and what its constructor receives. -/
def InterfaceSpec.decisions (i : InterfaceSpec) : List RequestDecisions × ConstructorShape :=
  (i.requests.map RequestSpec.decisions, i.constructorShape)

/-- What is decided can be told from the bare spec. -/
theorem RequestSpec.decisions_bare (r : RequestSpec) : r.bare.decisions = r.decisions :=
  rfl

/-- What the constructor receives can be told from the bare specs. -/
theorem InterfaceSpec.decisions_bare (i : InterfaceSpec) : i.bare.decisions = i.decisions := by
  have hdecisions : RequestSpec.decisions ∘ RequestSpec.bare = RequestSpec.decisions := funext RequestSpec.decisions_bare
  have hbindings : RequestSpec.externalBinding? ∘ RequestSpec.bare = RequestSpec.externalBinding? := rfl
  have hdelegates : RequestSpec.storeDelegate? ∘ RequestSpec.bare = RequestSpec.storeDelegate? := rfl
  simp only [decisions, constructorShape, bare, List.map_map, List.filterMap_map, hdecisions, hbindings, hdelegates]

end DataRequests
