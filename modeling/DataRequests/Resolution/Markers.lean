import DataRequests.Declaration.Marker
import DataRequests.Resolution.Fault

/-!
# The markers of a method

The markers of a method, sorted by what they say. Each may be given once: every marker whose key an earlier one has is a
fault, and a method with such a fault has no sorted markers.
-/

namespace DataRequests

/-- The markers of one method, each kind at most once. -/
structure Markers where
  network : Option NetworkMarker
  transport : Option Transport
  database : Option DatabaseMarker
  memory : Option MemoryMarker
  keyValueStore : Option KeyValueStoreMarker
  reuse : Option String
  targets : Bool
  controller : Option ControllerMarker
  paramsProvider : Option String
  cancelPrevious : Bool
  forwarded : List String
  deriving DecidableEq, Repr

/-- The markers that repeat an earlier one, in order. `seen` holds the keys of those before. -/
def Marker.repeats (seen : List (Bool × String)) : List Marker → List Marker
  | [] => []
  | a :: rest => if a.key ∈ seen then a :: repeats seen rest else repeats (a.key :: seen) rest

namespace Markers

/-- The markers that the first marker of each kind gives. -/
def ofFirst (markers : List Marker) : Markers where
  network := markers.findSome? Marker.network?
  transport := markers.findSome? Marker.transport?
  database := markers.findSome? Marker.database?
  memory := markers.findSome? Marker.memory?
  keyValueStore := markers.findSome? Marker.keyValueStore?
  reuse := markers.findSome? Marker.reuse?
  targets := markers.contains .targets
  controller := markers.findSome? Marker.controller?
  paramsProvider := markers.findSome? Marker.paramsProvider?
  cancelPrevious := markers.contains .cancelPrevious
  forwarded := markers.filterMap Marker.forward?

/-- The markers of a method by kind, or a fault for each marker that is repeated. -/
def collect (markers : List Marker) : Except (List Fault) Markers :=
  match Marker.repeats [] markers with
  | [] => .ok (ofFirst markers)
  | repeated => .error (repeated.map fun a => .repeatedMarker a.name)

end Markers

end DataRequests
