import DataRequests.Proofs.Agreement
import DataRequests.Proofs.System
import Mathlib.Data.List.Forall2

/-!
# Methods that are read alike

Resolving never looks at a declaration as a whole: of a method it reads the name, what its return type says, its parameters with their
roles, and what its markers say. Methods that agree on these are alike (`Method.Alike`). Interfaces and documents whose methods are alike
one by one resolve to the same (`Interface.Alike.spec`, `Interface.Alike.allErrors`, `Document.Alike.resolve`).
-/

namespace DataRequests

/-! ## Methods -/

/-- Two return types from which the same is read, as that of a request and as that of a params provider. -/
structure TypeExpr.ReturnsLike (t u : TypeExpr) : Prop where
  shape : ∀ isController, ReturnShape.ofType t isController = ReturnShape.ofType u isController
  provided : t.providedKind? = u.providedKind?

theorem TypeExpr.ReturnsLike.refl (t : TypeExpr) : t.ReturnsLike t :=
  ⟨fun _ => rfl, rfl⟩

namespace Method

/-- Two methods of which the same is read. -/
structure Alike (m m' : Method) : Prop where
  name : m.name = m'.name
  returns : m.returnType.ReturnsLike m'.returnType
  rendered : m.returnType.render = m'.returnType.render
  resolvedParameters : m.resolvedParameters = m'.resolvedParameters
  collect : Markers.collect m.markers = Markers.collect m'.markers
  reuseTarget : m.reuseTarget = m'.reuseTarget
  providerTarget : m.providerTarget = m'.providerTarget

variable {m m' : Method}

namespace Alike

variable (h : m.Alike m')
include h

/-- Such methods have the same spec. -/
theorem specOf : m.specOf = m'.specOf := by
  funext markers shape defaults
  simp only [Method.specOf, h.name, h.resolvedParameters]

/-- Such methods are prepared to the same spec or fail in the same way. -/
theorem prepare (d : Defaults) : m.prepare d = m'.prepare d := by
  simp only [Method.prepare, Method.scan, h.collect, h.returns.shape, h.resolvedParameters, h.specOf]

end Alike

end Method

/-! ## Interfaces -/

section

variable {α β γ : Type} {R : α → β → Prop} {l : List α} {l' : List β} (h : List.Forall₂ R l l')
include h

/-- Two lists whose elements give the same one by one give the same. -/
theorem map_eq_of_forall₂ {f : α → γ} {g : β → γ} (hfg : ∀ a b, R a b → f a = g b) : l.map f = l'.map g := by
  induction h with
  | nil => rfl
  | cons hab _ ih => rw [List.map_cons, List.map_cons, hfg _ _ hab, ih]

/-- So do they when some of the elements give nothing. -/
theorem filterMap_eq_of_forall₂ {f : α → Option γ} {g : β → Option γ} (hfg : ∀ a b, R a b → f a = g b) :
    l.filterMap f = l'.filterMap g := by
  have hmap := congrArg (List.filterMap id) (map_eq_of_forall₂ h hfg)
  simpa [List.filterMap_map] using hmap

/-- So do they when each element gives a list. -/
theorem flatMap_eq_of_forall₂ {f : α → List γ} {g : β → List γ} (hfg : ∀ a b, R a b → f a = g b) :
    l.flatMap f = l'.flatMap g := by
  rw [List.flatMap_def, List.flatMap_def, map_eq_of_forall₂ h hfg]

/-- What is picked alike from two lists is related one by one. -/
theorem forall₂_filter {p : α → Bool} {q : β → Bool} (hpq : ∀ a b, R a b → p a = q b) :
    List.Forall₂ R (l.filter p) (l'.filter q) :=
  List.rel_filter (fun a b hab => by show p a = true ↔ q b = true; rw [hpq a b hab]) h

end

/-- Two entries of methods that are alike, both repetitions or neither. -/
structure Entry.Alike (e e' : Entry) : Prop where
  method : e.method.Alike e'.method
  isRepeated : e.isRepeated = e'.isRepeated

namespace Entry.Alike

variable {e e' : Entry} (h : e.Alike e')
include h

/-- Both are params providers or neither is. -/
theorem isProvider : e.isProvider = e'.isProvider := by
  rw [Entry.isProvider, h.method.providerTarget, ← Entry.isProvider]

/-- They give the same handle. -/
theorem handle? (d : Defaults) : e.handle? d = e'.handle? d := by
  simp only [Entry.handle?, h.method.prepare]

/-- Both have failed in the scan or neither has. -/
theorem hasFailed (d : Defaults) : e.hasFailed d = e'.hasFailed d := by
  simp only [Entry.hasFailed, h.handle?, h.method.reuseTarget]

/-- The same is wrong with them in the scan. -/
theorem scanFaults (d : Defaults) : e.scanFaults d = e'.scanFaults d := by
  simp only [Entry.scanFaults, h.method.prepare, h.isRepeated]

/-- Beside one pool they come to the same outcome. -/
theorem outcome? (d : Defaults) (pool : Pool) : e.outcome? d pool = e'.outcome? d pool := by
  simp only [Entry.outcome?, h.method.prepare, h.isRepeated]

theorem spec? (d : Defaults) (pool : Pool) : e.spec? d pool = e'.spec? d pool := by
  simp only [Entry.spec?, h.outcome?]

theorem finishFaults (d : Defaults) (pool : Pool) : e.finishFaults d pool = e'.finishFaults d pool := by
  simp only [Entry.finishFaults, h.outcome?]

end Entry.Alike

/-- The entries of methods that are alike one by one are alike one by one. -/
theorem Entry.forall₂_mark {methods methods' : List Method} (h : List.Forall₂ Method.Alike methods methods') (seen : List String) :
    List.Forall₂ Entry.Alike (mark seen methods) (mark seen methods') := by
  induction h generalizing seen with
  | nil => exact .nil
  | cons hm _ ih =>
    rw [mark, mark, ← hm.name]
    exact .cons ⟨hm, rfl⟩ (ih _)

/-- Under the name of its target a params provider finds the same parameters in two lists of methods that are alike. -/
theorem Method.targetFaults_of_alike {m m' : Method} (h : m.Alike m') {requests requests' : List Method}
    (hrequests : List.Forall₂ Method.Alike requests requests') (target : String) :
    m.targetFaults target requests = m'.targetFaults target requests' := by
  unfold targetFaults
  rw [h.resolvedParameters]
  induction hrequests with
  | nil => rfl
  | cons hr _ ih =>
    rw [List.find?_cons, List.find?_cons, ← hr.name]
    cases decide (_ = target) with
    | true => simp only [hr.resolvedParameters]
    | false => exact ih

/-- Params providers that are alike are resolved to the same beside requests that are alike. -/
theorem Method.resolveProvider_of_alike {m m' : Method} (h : m.Alike m') {requests requests' : List Method}
    (hrequests : List.Forall₂ Method.Alike requests requests') : m.resolveProvider requests = m'.resolveProvider requests' := by
  simp only [resolveProvider, providerFaults, providedKindFaults, h.name, h.returns.provided, h.rendered, h.providerTarget,
    h.resolvedParameters, targetFaults_of_alike h hrequests]

namespace Entry.Alike

variable {e e' : Entry} (h : e.Alike e') {requests requests' : List Method}
  (hrequests : List.Forall₂ Method.Alike requests requests')
include h hrequests

/-- They give the same params provider. -/
theorem provider? : e.provider? requests = e'.provider? requests' := by
  simp only [Entry.provider?, Method.resolveProvider_of_alike h.method hrequests, h.isRepeated]

/-- The same is wrong with them as params providers. -/
theorem providerFaults : e.providerFaults requests = e'.providerFaults requests' := by
  simp only [Entry.providerFaults, Method.resolveProvider_of_alike h.method hrequests, h.isRepeated]

end Entry.Alike

namespace Interface

/-- Two interfaces under the same defaults whose methods are alike one by one. -/
structure Alike (i j : Interface) : Prop where
  setting : i.SameSetting j
  methods : List.Forall₂ Method.Alike i.methods j.methods

namespace Alike

variable {i j : Interface} (h : i.Alike j)
include h

/-- The entries of such interfaces are alike one by one. -/
theorem entries : List.Forall₂ Entry.Alike i.entries j.entries :=
  Entry.forall₂_mark h.methods []

/-- So are those of their requests. -/
theorem requests : List.Forall₂ Entry.Alike i.requests j.requests :=
  forall₂_filter h.entries fun _ _ he => by rw [he.isProvider]

/-- So are those of their params providers. -/
theorem providers : List.Forall₂ Entry.Alike i.providers j.providers :=
  forall₂_filter h.entries fun _ _ he => he.isProvider

/-- So are the methods of their requests. -/
theorem requestMethods : List.Forall₂ Method.Alike i.requestMethods j.requestMethods :=
  List.rel_map (fun _ _ he => he.method) (forall₂_filter h.requests fun _ _ he => by rw [he.isRepeated])

/-- The pools of such interfaces are the same. -/
theorem pool (outer : Defaults) : i.pool outer = j.pool outer := by
  rw [Interface.pool, Interface.pool, ← h.setting.defaults outer, Pool.ofEntries, Pool.ofEntries]
  congr 1
  · exact filterMap_eq_of_forall₂ h.requests fun _ _ he => he.handle? _
  · exact map_eq_of_forall₂ (forall₂_filter h.requests fun _ _ he => he.hasFailed _) fun _ _ he => he.method.name
  · exact filterMap_eq_of_forall₂ h.requests fun _ _ he => by rw [he.method.reuseTarget, he.method.name]

/-- Such interfaces resolve to the same specs. -/
theorem spec (outer : Defaults) : i.spec outer = j.spec outer := by
  have hspecs : i.requests.filterMap (·.spec? (i.defaults outer) (i.pool outer)) =
      j.requests.filterMap (·.spec? (j.defaults outer) (j.pool outer)) := by
    rw [← h.pool outer, ← h.setting.defaults outer]
    exact filterMap_eq_of_forall₂ h.requests fun _ _ he => he.spec? _ _
  have hproviders : i.providers.filterMap (·.provider? i.requestMethods) =
      j.providers.filterMap (·.provider? j.requestMethods) :=
    filterMap_eq_of_forall₂ h.providers fun _ _ he => he.provider? h.requestMethods
  simp only [Interface.spec, h.setting.name, hspecs, hproviders]

/-- The faults that such interfaces find method by method are the same errors. -/
theorem errors {f g : Entry → List Fault} {l l' : List Entry} (hl : List.Forall₂ Entry.Alike l l')
    (hfg : ∀ e e', e.Alike e' → f e = g e') :
    (l.flatMap fun e => i.errors e.method.name (f e)) = l'.flatMap fun e => j.errors e.method.name (g e) :=
  flatMap_eq_of_forall₂ hl fun e e' he => by
    rw [Interface.errors, Interface.errors, h.setting.name, he.method.name, hfg e e' he]

/-- Such interfaces report the same. -/
theorem allErrors (outer : Defaults) : i.allErrors outer = j.allErrors outer := by
  have hrepeats : i.repeatErrors = j.repeatErrors :=
    h.errors (forall₂_filter h.entries fun _ _ he => he.isRepeated) fun _ _ _ => rfl
  have hscan : i.scanErrors outer = j.scanErrors outer := by
    unfold scanErrors
    rw [← h.setting.defaults outer]
    exact h.errors h.requests fun _ _ he => he.scanFaults _
  have hfinish : i.finishErrors outer = j.finishErrors outer := by
    unfold finishErrors
    rw [← h.setting.defaults outer, ← h.pool outer]
    exact h.errors h.requests fun _ _ he => he.finishFaults _ _
  have hproviders : i.providerErrors = j.providerErrors :=
    h.errors h.providers fun _ _ he => he.providerFaults h.requestMethods
  rw [Interface.allErrors, Interface.allErrors, hrepeats, hscan, hfinish, hproviders]

end Alike

end Interface

/-! ## Documents -/

/-- One more interface does the same to a state as one that is alike. -/
theorem ResolvedSystem.step_of_alike {i j : Interface} (h : i.Alike j) (defaults : Defaults)
    (state : ResolvedSystem × List ResolutionError) : step defaults state i = step defaults state j := by
  simp only [step, Interface.resolve, Interface.duplicateError, h.setting.name, h.spec, h.allErrors]

/-- Two runs over interfaces that are alike one by one come to the same. -/
theorem ResolvedSystem.foldl_of_alike {interfaces interfaces' : List Interface}
    (h : List.Forall₂ Interface.Alike interfaces interfaces') (defaults : Defaults) (state : ResolvedSystem × List ResolutionError) :
    interfaces.foldl (step defaults) state = interfaces'.foldl (step defaults) state := by
  induction h generalizing state with
  | nil => rfl
  | cons hij _ ih => rw [List.foldl_cons, List.foldl_cons, step_of_alike hij, ih]

/-- Two documents with the same defaults whose interfaces are alike one by one. -/
structure Document.Alike (d d' : Document) : Prop where
  config : d.config = d'.config
  interfaces : List.Forall₂ Interface.Alike d.interfaces d'.interfaces

/-- Such documents resolve to the same systems and the same errors. -/
theorem Document.Alike.resolve {d d' : Document} (h : d.Alike d') (outer : Defaults) : d.resolve outer = d'.resolve outer := by
  rw [Document.resolve, Document.resolve, Document.defaults, Document.defaults, h.config]
  exact ResolvedSystem.foldl_of_alike h.interfaces _ _

end DataRequests
