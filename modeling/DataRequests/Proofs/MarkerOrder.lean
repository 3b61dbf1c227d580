import DataRequests.Proofs.AlikeMethods
import DataRequests.Proofs.Markers

/-!
# The order of markers

The markers of a method may be given in any order, as long as the forwarded ones keep theirs: what is read from them is the same
(`Method.Reordered.alike`), and so two interfaces whose methods are alike one by one resolve to the same (`resolve_of_reordered`).
-/

namespace DataRequests

/-! ## Markers -/

namespace Marker

/-- The content that is found for a kind is the same in every order of markers with distinct keys. -/
theorem findSome?_of_perm {α : Type} {f : Marker → Option α} {make : α → Marker} {markers markers' : List Marker}
    (hf : ReadsKind f make) (h : markers.Perm markers') (hkeys : (markers.map key).Nodup) :
    markers.findSome? f = markers'.findSome? f := by
  have hkeys' : (markers'.map key).Nodup := (h.map key).nodup_iff.mp hkeys
  ext content
  rw [findSome?_eq_some_iff_mem hf hkeys, findSome?_eq_some_iff_mem hf hkeys', h.mem_iff]

/-- The forwarded names are the names of the forwarded markers. -/
theorem filterMap_forward?_eq_map_name (markers : List Marker) :
    markers.filterMap forward? = (markers.filter (·.isForwarded)).map (·.name) := by
  rw [← List.filterMap_eq_map, List.filterMap_filter]
  refine List.filterMap_congr fun a _ => ?_
  cases a <;> rfl

end Marker

/-- The first marker of each kind is the same in every order in which the forwarded markers are the same. -/
theorem Markers.ofFirst_of_perm {markers markers' : List Marker} (h : markers.Perm markers')
    (hkeys : (markers.map Marker.key).Nodup)
    (hforwarded : markers.filter (·.isForwarded) = markers'.filter (·.isForwarded)) :
    ofFirst markers = ofFirst markers' := by
  have hforward : markers.filterMap Marker.forward? = markers'.filterMap Marker.forward? := by
    rw [Marker.filterMap_forward?_eq_map_name, Marker.filterMap_forward?_eq_map_name, hforwarded]
  unfold ofFirst
  rw [Marker.findSome?_of_perm Marker.readsKind_network? h hkeys, Marker.findSome?_of_perm Marker.readsKind_transport? h hkeys,
    Marker.findSome?_of_perm Marker.readsKind_database? h hkeys, Marker.findSome?_of_perm Marker.readsKind_memory? h hkeys,
    Marker.findSome?_of_perm Marker.readsKind_keyValueStore? h hkeys, Marker.findSome?_of_perm Marker.readsKind_reuse? h hkeys,
    Marker.findSome?_of_perm Marker.readsKind_controller? h hkeys,
    Marker.findSome?_of_perm Marker.readsKind_paramsProvider? h hkeys, h.contains_eq, h.contains_eq, hforward]

/-! ## Methods -/

namespace Method

/-- The same method with its markers in another order; the forwarded ones keep theirs. -/
structure Reordered (m m' : Method) : Prop where
  name : m.name = m'.name
  returnType : m.returnType = m'.returnType
  parameters : m.parameters = m'.parameters
  markers : m.markers.Perm m'.markers
  forwarded : m.markers.filter (·.isForwarded) = m'.markers.filter (·.isForwarded)

variable {m m' : Method}

/-- From markers with distinct keys the same is read in every order. -/
theorem Reordered.alike (h : m.Reordered m') (hkeys : (m.markers.map Marker.key).Nodup) : m.Alike m' where
  name := h.name
  returns := h.returnType ▸ .refl m.returnType
  rendered := by rw [h.returnType]
  resolvedParameters := by rw [resolvedParameters, h.parameters, ← resolvedParameters]
  collect := by
    have hkeys' : (m'.markers.map Marker.key).Nodup := (h.markers.map Marker.key).nodup_iff.mp hkeys
    rw [(Markers.collect_eq_ok_iff _ _).mpr ⟨hkeys, rfl⟩, (Markers.collect_eq_ok_iff _ _).mpr ⟨hkeys', rfl⟩,
      Markers.ofFirst_of_perm h.markers hkeys h.forwarded]
  reuseTarget := Marker.findSome?_of_perm Marker.readsKind_reuse? h.markers hkeys
  providerTarget := Marker.findSome?_of_perm Marker.readsKind_paramsProvider? h.markers hkeys

end Method

/-! ## Interfaces -/

namespace Interface

/-- Two interfaces under the same defaults with the same methods one by one, each with its markers in another order; the forwarded
markers of a method keep theirs. -/
structure Reordered (i j : Interface) : Prop where
  setting : i.SameSetting j
  methods : List.Forall₂ Method.Reordered i.methods j.methods

/-- Such interfaces are alike when the markers of each method have distinct keys. -/
theorem Reordered.alike {i j : Interface} (h : i.Reordered j)
    (hkeys : ∀ m ∈ i.methods, (m.markers.map Marker.key).Nodup) : i.Alike j where
  setting := h.setting
  methods := by
    have hmethods := (List.forall₂_and_left _ _).mpr ⟨hkeys, h.methods⟩
    exact hmethods.imp fun m m' hm => hm.2.alike hm.1

end Interface

/-- The order of the markers of a method carries no meaning, beyond that of the forwarded ones: when no method of an interface repeats
a marker, the methods may give their markers in any order, and the interface resolves to the same specs and the same errors. -/
theorem resolve_of_reordered {i j : Interface} (h : i.Reordered j)
    (hkeys : ∀ m ∈ i.methods, (m.markers.map Marker.key).Nodup) (outer : Defaults) : j.resolve outer = i.resolve outer := by
  have halike := h.alike hkeys
  rw [Interface.resolve, Interface.resolve, halike.spec outer, halike.allErrors outer]

/-- A controller reference, a request that reuses it with forwarded markers, a transport binding beside the network, and a params
provider. -/
def markedItems : Interface where
  name := "Items"
  methods :=
    [{ name := "items", returnType := .wrapping .controller "Item",
       markers := [.controllerReference { inConstructor := true }, .memory {}] },
     { name := "getItem", returnType := .wrapping .request "Item",
       markers := [.reuse "items", .targets, .forward "memory", .memory {}, .forward "Deprecated"] },
     { name := "sendItem", returnType := .wrapping .call "Item",
       markers := [.network { callReturnType := some "Sent" }, .transport ⟨"POST", "/items"⟩] },
     { name := "itemParams", returnType := .wrapping (.sourceParams none) "Item",
       markers := [.paramsProvider "getItem", .cancelPrevious] }]

/-- The same interface with all markers turned round, the forwarded ones excepted. -/
def remarkedItems : Interface where
  name := "Items"
  methods :=
    [{ name := "items", returnType := .wrapping .controller "Item",
       markers := [.memory {}, .controllerReference { inConstructor := true }] },
     { name := "getItem", returnType := .wrapping .request "Item",
       markers := [.forward "memory", .memory {}, .forward "Deprecated", .targets, .reuse "items"] },
     { name := "sendItem", returnType := .wrapping .call "Item",
       markers := [.transport ⟨"POST", "/items"⟩, .network { callReturnType := some "Sent" }] },
     { name := "itemParams", returnType := .wrapping (.sourceParams none) "Item",
       markers := [.cancelPrevious, .paramsProvider "getItem"] }]

/-- All four methods are output, and as they are under the other order. -/
theorem remarkedItems_resolve :
    (∀ m ∈ markedItems.methods, (m.markers.map Marker.key).Nodup) ∧ markedItems ≠ remarkedItems ∧
      ((markedItems.resolve {}).1.requests.map (·.name) = ["items", "getItem", "sendItem"] ∧
        (markedItems.resolve {}).1.providers.length = 1 ∧ (markedItems.resolve {}).2 = []) ∧
      remarkedItems.resolve {} = markedItems.resolve {} := by
  have hreordered : markedItems.Reordered remarkedItems :=
    ⟨⟨rfl, rfl, rfl⟩,
      .cons ⟨rfl, rfl, rfl, by decide, by decide⟩ (.cons ⟨rfl, rfl, rfl, by decide, by decide⟩
        (.cons ⟨rfl, rfl, rfl, by decide, by decide⟩ (.cons ⟨rfl, rfl, rfl, by decide, by decide⟩ .nil)))⟩
  have hkeys : ∀ m ∈ markedItems.methods, (m.markers.map Marker.key).Nodup := by decide
  exact ⟨hkeys, by decide, by decide, resolve_of_reordered hreordered hkeys {}⟩

end DataRequests
