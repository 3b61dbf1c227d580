import DataRequests.Proofs.Bare
import DataRequests.Proofs.Methods
import DataRequests.Proofs.System
import Mathlib.Data.List.Basic

/-!
# Defaults decide nothing

Layers of defaults set options and nothing else: what is wrong with a document, which requests are output, what they are bound to and
which sources they use is the same under all of them. Two documents that declare the same methods are run side by side here, stage by
stage; their results stay alike, which means that they are the same once they are bare (`resolve_of_same_methods`).
-/

namespace DataRequests

/-! ## Methods -/

/-- Two results have the same value when changed exactly when both fail alike, or both succeed with values that are the same when
changed. -/
theorem except_map_eq_map_iff {ε α β : Type} {f : α → β} {x y : Except ε α} :
    x.map f = y.map f ↔ (∃ e, x = .error e ∧ y = .error e) ∨ ∃ a b, x = .ok a ∧ y = .ok b ∧ f a = f b := by
  cases x <;> cases y <;> simp [Except.map, eq_comm]

namespace Method

variable (m : Method) (defaults defaults' : Defaults)

/-- A method is scanned alike under any defaults, but for the options that these set. -/
theorem map_bare_scan : (m.scan defaults).map RequestSpec.bare = (m.scan defaults').map RequestSpec.bare := by
  unfold scan
  cases Markers.collect m.markers with
  | error faults => rfl
  | ok markers =>
    dsimp only
    cases ReturnShape.ofType m.returnType markers.controller.isSome with
    | error fault => rfl
    | ok shape =>
      dsimp only
      split <;> rfl

/-- A method is prepared alike under any defaults, but for the options that these set. -/
theorem map_bare_prepare : (m.prepare defaults).map RequestSpec.bare = (m.prepare defaults').map RequestSpec.bare := by
  unfold prepare
  rcases except_map_eq_map_iff.mp (m.map_bare_scan defaults defaults') with ⟨faults, h, h'⟩ | ⟨r, r', h, h', hbare⟩
  · rw [h, h']
  · have hintent : r.intentFault? = r'.intentFault? := by
      rw [← r.intentFault?_bare, hbare, r'.intentFault?_bare]
    simp only [h, h', hintent]
    cases r'.intentFault? with
    | none => exact congrArg Except.ok hbare
    | some fault => rfl

end Method

namespace Entry

variable (e : Entry) (defaults defaults' : Defaults)

/-- A method provides a handle under any defaults or under none, and the same but for the options that these set. -/
theorem map_bare_handle? : (e.handle? defaults).map RequestSpec.bare = (e.handle? defaults').map RequestSpec.bare := by
  have hvalid : ∀ r : RequestSpec, (if r.reuses.isNone then r.validate.toOption else none).map RequestSpec.bare =
      if r.bare.reuses.isNone then r.bare.validate.toOption else none := by
    intro r
    rw [r.validate_bare, apply_ite (Option.map RequestSpec.bare)]
    cases r.validate <;> rfl
  unfold handle?
  rcases except_map_eq_map_iff.mp (e.method.map_bare_prepare defaults defaults') with
    ⟨faults, h, h'⟩ | ⟨r, r', h, h', hbare⟩
  · rw [h, h']
  · simp only [h, h', hvalid, hbare]

/-- What is declared wrongly is so under any defaults. -/
theorem scanFaults_eq : e.scanFaults defaults = e.scanFaults defaults' := by
  unfold scanFaults
  rcases except_map_eq_map_iff.mp (e.method.map_bare_prepare defaults defaults') with
    ⟨faults, h, h'⟩ | ⟨r, r', h, h', -⟩
  · rw [h, h']
  · rw [h, h']

variable {pool pool' : Pool}

/-- Beside two pools that are the same but for the options that defaults set, the same comes of a request but for these options. -/
theorem outcome?_alike (hpool : pool.bare = pool'.bare) :
    (e.outcome? defaults pool = none ∧ e.outcome? defaults' pool' = none) ∨
      ∃ result result', e.outcome? defaults pool = some result ∧ e.outcome? defaults' pool' = some result' ∧
        result.map RequestSpec.bare = result'.map RequestSpec.bare := by
  unfold outcome?
  rcases except_map_eq_map_iff.mp (e.method.map_bare_prepare defaults defaults') with
    ⟨faults, h, h'⟩ | ⟨r, r', h, h', hbare⟩
  · exact Or.inl (by simp [h, h'])
  · have hfinish : (r.finish pool).map RequestSpec.bare = (r'.finish pool').map RequestSpec.bare := by
      rw [← r.finish_bare, ← r'.finish_bare, hbare, hpool]
    cases hrepeated : e.isRepeated with
    | true => exact Or.inl (by simp [h, h'])
    | false => exact Or.inr ⟨r.finish pool, r'.finish pool', by simp [h], by simp [h'], hfinish⟩

/-- Such pools give a request the same spec but for the options that defaults set. -/
theorem map_bare_spec? (hpool : pool.bare = pool'.bare) :
    (e.spec? defaults pool).map RequestSpec.bare = (e.spec? defaults' pool').map RequestSpec.bare := by
  unfold spec?
  rcases e.outcome?_alike defaults defaults' hpool with
    ⟨h, h'⟩ | ⟨result, result', h, h', hmap⟩
  · rw [h, h']
  · rw [h, h']
    rcases except_map_eq_map_iff.mp hmap with ⟨faults, rfl, rfl⟩ | ⟨r, r', rfl, rfl, hbare⟩
    · rfl
    · exact congrArg some hbare

/-- What is wrong with a request is the same beside such pools. -/
theorem finishFaults_eq (hpool : pool.bare = pool'.bare) : e.finishFaults defaults pool = e.finishFaults defaults' pool' := by
  unfold finishFaults
  rcases e.outcome?_alike defaults defaults' hpool with
    ⟨h, h'⟩ | ⟨result, result', h, h', hmap⟩
  · rw [h, h']
  · rw [h, h']
    rcases except_map_eq_map_iff.mp hmap with ⟨faults, rfl, rfl⟩ | ⟨r, r', rfl, rfl, -⟩
    · rfl
    · rfl

end Entry

/-- The pool of some requests is the same under any defaults, but for the options that these set. -/
theorem Pool.bare_ofEntries (defaults defaults' : Defaults) (requests : List Entry) :
    (ofEntries defaults requests).bare = (ofEntries defaults' requests).bare := by
  have hhandles : (requests.filterMap (·.handle? defaults)).map RequestSpec.bare =
      (requests.filterMap (·.handle? defaults')).map RequestSpec.bare := by
    rw [List.map_filterMap, List.map_filterMap]
    exact List.filterMap_congr fun e _ => e.map_bare_handle? defaults defaults'
  have hfailed : ∀ e : Entry, e.hasFailed defaults = e.hasFailed defaults' := by
    intro e
    rw [Entry.hasFailed, Entry.hasFailed, ← Option.isNone_map (f := RequestSpec.bare),
      e.map_bare_handle? defaults defaults', Option.isNone_map]
  simp only [bare, ofEntries, hhandles, hfailed]

/-! ## Interfaces -/

namespace Interface

/-- Two interfaces of one name that declare the same methods, under whatever defaults. -/
structure SameMethods (i j : Interface) : Prop where
  name : i.name = j.name
  methods : i.methods = j.methods

namespace SameMethods

variable {i j : Interface} (h : i.SameMethods j) (outer outer' : Defaults)
include h

theorem entries : i.entries = j.entries := by
  rw [Interface.entries, h.methods, ← Interface.entries]

theorem requests : i.requests = j.requests := by
  rw [Interface.requests, h.entries, ← Interface.requests]

theorem providers : i.providers = j.providers := by
  rw [Interface.providers, h.entries, ← Interface.providers]

theorem requestMethods : i.requestMethods = j.requestMethods := by
  rw [Interface.requestMethods, h.requests, ← Interface.requestMethods]

theorem errors : i.errors = j.errors := by
  unfold Interface.errors
  rw [h.name]

/-- Such interfaces have the same pool but for the options that defaults set. -/
theorem bare_pool : (i.pool outer).bare = (j.pool outer').bare := by
  rw [pool, pool, h.requests]
  exact Pool.bare_ofEntries _ _ j.requests

/-- Such interfaces resolve to the same specs but for the options that defaults set. -/
theorem bare_spec : (i.spec outer).bare = (j.spec outer').bare := by
  have hspecs : (i.requests.filterMap (·.spec? (i.defaults outer) (i.pool outer))).map RequestSpec.bare =
      (j.requests.filterMap (·.spec? (j.defaults outer') (j.pool outer'))).map RequestSpec.bare := by
    rw [h.requests, List.map_filterMap, List.map_filterMap]
    exact List.filterMap_congr fun e _ => e.map_bare_spec? _ _ (h.bare_pool outer outer')
  simp only [spec, InterfaceSpec.bare_ofMethods, hspecs, h.name, h.providers, h.requestMethods]

/-- Such interfaces report the same. -/
theorem allErrors : i.allErrors outer = j.allErrors outer' := by
  have hscan : ∀ e : Entry, e.scanFaults (i.defaults outer) = e.scanFaults (j.defaults outer') :=
    fun e => e.scanFaults_eq _ _
  have hfinish : ∀ e : Entry, e.finishFaults (i.defaults outer) (i.pool outer) =
      e.finishFaults (j.defaults outer') (j.pool outer') :=
    fun e => e.finishFaults_eq _ _ (h.bare_pool outer outer')
  simp only [Interface.allErrors, repeatErrors, scanErrors, finishErrors, providerErrors, hscan, hfinish, h.entries, h.requests,
    h.providers, h.requestMethods, h.errors]

end SameMethods

end Interface

/-! ## Documents -/

/-- One more interface with the same methods keeps two runs alike: they report the same and enter the same specs, but for the options
that defaults set. -/
theorem ResolvedSystem.step_alike {i j : Interface} {state state' : ResolvedSystem × List ResolutionError}
    (h : i.SameMethods j) (hbare : state.1.bare = state'.1.bare) (herrors : state.2 = state'.2) (outer outer' : Defaults) :
    (step outer state i).1.bare = (step outer' state' j).1.bare ∧ (step outer state i).2 = (step outer' state' j).2 := by
  have hkeys : state.1.interfaces.keys = state'.1.interfaces.keys := congrArg (·.interfaces.keys) hbare
  have htaken : state.1.interfaces.contains i.name = state'.1.interfaces.contains j.name := by
    rw [Arena.contains, Arena.id?, hkeys, h.name, ← Arena.id?, ← Arena.contains]
  cases hcontains : state.1.interfaces.contains i.name with
  | true =>
    rw [step_of_taken outer state hcontains, step_of_taken outer' state' (htaken ▸ hcontains), herrors]
    exact ⟨hbare, by rw [Interface.duplicateError, Interface.duplicateError, h.name]⟩
  | false =>
    rw [step_of_new outer state hcontains, step_of_new outer' state' (htaken ▸ hcontains), herrors,
      h.allErrors outer outer']
    refine ⟨?_, rfl⟩
    have harena : state.1.interfaces.map InterfaceSpec.bare = state'.1.interfaces.map InterfaceSpec.bare :=
      congrArg (·.interfaces) hbare
    simp only [bare, Arena.map_insert, harena, h.name]
    exact congrArg _ (congrArg _ (h.bare_spec outer outer'))

/-- Two runs over interfaces with the same methods stay alike. -/
theorem ResolvedSystem.foldl_alike {interfaces interfaces' : List Interface}
    {state state' : ResolvedSystem × List ResolutionError} (h : List.Forall₂ Interface.SameMethods interfaces interfaces')
    (hbare : state.1.bare = state'.1.bare) (herrors : state.2 = state'.2) (outer outer' : Defaults) :
    (interfaces.foldl (step outer) state).1.bare = (interfaces'.foldl (step outer') state').1.bare ∧
      (interfaces.foldl (step outer) state).2 = (interfaces'.foldl (step outer') state').2 := by
  induction h generalizing state state' with
  | nil => exact ⟨hbare, herrors⟩
  | cons hij _ ih =>
    obtain ⟨hbare, herrors⟩ := step_alike hij hbare herrors outer outer'
    exact ih hbare herrors

/-- Two documents whose interfaces declare the same methods report the same errors, in the same order, whatever their layers of
defaults and the outermost ones are. They resolve to the same specs but for the options that defaults set, and so everything that is
decided about a request and everything that a constructor receives is the same. -/
theorem resolve_of_same_methods {d d' : Document} (h : List.Forall₂ Interface.SameMethods d.interfaces d'.interfaces)
    (outer outer' : Defaults) :
    (d.resolve outer).2 = (d'.resolve outer').2 ∧ (d.resolve outer).1.bare = (d'.resolve outer').1.bare ∧
      (d.resolve outer).1.interfaces.values.map InterfaceSpec.decisions =
        (d'.resolve outer').1.interfaces.values.map InterfaceSpec.decisions := by
  obtain ⟨hbare, herrors⟩ :
      (d.resolve outer).1.bare = (d'.resolve outer').1.bare ∧ (d.resolve outer).2 = (d'.resolve outer').2 :=
    ResolvedSystem.foldl_alike h rfl rfl (d.defaults outer) (d'.defaults outer')
  refine ⟨herrors, hbare, ?_⟩
  have hvalues : ∀ s : ResolvedSystem, s.interfaces.values.map InterfaceSpec.decisions =
      s.bare.interfaces.values.map InterfaceSpec.decisions := by
    intro s
    rw [ResolvedSystem.bare, Arena.values_map, List.map_map]
    exact List.map_congr_left fun i _ => i.decisions_bare.symm
  rw [hvalues (d.resolve outer).1, hvalues (d'.resolve outer').1, hbare]

/-- A request with two kinds, one that reuses it, and one without sources, in a document with the given layers of defaults. -/
def itemsUnder (document interface : Option Defaults) (network : Option NetworkDefaults) : Document where
  config := document
  interfaces :=
    [{ name := "Items", config := interface, network := network
       methods :=
        [{ name := "items", returnType := .wrapping .request "Item", markers := [.network {}, .memory {}] },
         { name := "getItem", returnType := .wrapping .request "Item", markers := [.reuse "items"] },
         { name := "note", returnType := .wrapping .request "Note" }] }]

/-- The document with layers at every level. -/
def itemsUnderLayers : Document :=
  itemsUnder (some { refreshStrategy := some "Daily" }) (some { responseTransform := some "OwnResponse" })
    (some { errorTransform := some "OwnError" })

/-- The layers change the specs, and neither the error nor what is decided. -/
theorem itemsUnderLayers_resolve :
    ((itemsUnder none none none).resolve {}).1 ≠ (itemsUnderLayers.resolve { refreshStrategy := some "Hourly" }).1 ∧
      ((itemsUnder none none none).resolve {}).2 = [⟨"Items", "note", .missingSourceIntent false⟩] ∧
      (itemsUnderLayers.resolve { refreshStrategy := some "Hourly" }).2 = ((itemsUnder none none none).resolve {}).2 ∧
      (itemsUnderLayers.resolve { refreshStrategy := some "Hourly" }).1.bare = ((itemsUnder none none none).resolve {}).1.bare := by
  have hsame : List.Forall₂ Interface.SameMethods itemsUnderLayers.interfaces (itemsUnder none none none).interfaces :=
    .cons ⟨rfl, rfl⟩ .nil
  obtain ⟨herrors, hbare, -⟩ := resolve_of_same_methods hsame { refreshStrategy := some "Hourly" } {}
  exact ⟨by decide, by decide, herrors, hbare⟩

end DataRequests
