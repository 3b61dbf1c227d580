import DataRequests.Source

/-!
# Markers

What a method says beside its signature, by an annotation. Markers of the library declare sources, reuse another method,
restrict a request to its targets, or say what kind of method this is; any other annotation is forwarded by its name.

Two markers repeat each other when they have the same key (`Marker.key`). Forwarded ones are compared with each other only.
-/

namespace DataRequests

/-- What a method says about the network. -/
structure NetworkMarker where
  responseTransform : Option String := none
  errorTransform : Option String := none
  refreshStrategy : Option String := none
  callReturnType : Option String := none
  deriving DecidableEq, Repr

/-- What a method says about the database. -/
structure DatabaseMarker where
  refreshStrategy : Option String := none
  isAsync : Bool := false
  deriving DecidableEq, Repr

/-- What a method says about memory. -/
structure MemoryMarker where
  refreshStrategy : Option String := none
  deriving DecidableEq, Repr

/-- What a method says about the key-value store. -/
structure KeyValueStoreMarker where
  delegate : Option String := none
  refreshStrategy : Option String := none
  deriving DecidableEq, Repr

/-- What the marker of a controller reference says: whether the handle comes through the constructor, and whether it may be
left out there. -/
structure ControllerMarker where
  inConstructor : Bool := false
  optional : Bool := false
  deriving DecidableEq, Repr

/-- One annotation of a method. -/
inductive Marker where
  | network (content : NetworkMarker)
  /-- A transport binding declares the network too. -/
  | transport (binding : Transport)
  | database (content : DatabaseMarker)
  | memory (content : MemoryMarker)
  | keyValueStore (content : KeyValueStoreMarker)
  | reuse (method : String)
  | targets
  | controllerReference (marker : ControllerMarker)
  | paramsProvider (target : String)
  | cancelPrevious
  /-- A marker that is passed through. -/
  | forward (name : String)
  deriving DecidableEq, Repr

namespace Marker

/-- The name of a marker. -/
def name : Marker → String
  | .network _ => "network"
  | .transport _ => "transport"
  | .database _ => "database"
  | .memory _ => "memory"
  | .keyValueStore _ => "key-value-store"
  | .reuse _ => "reuse"
  | .targets => "targets"
  | .controllerReference _ => "controller-reference"
  | .paramsProvider _ => "params-provider"
  | .cancelPrevious => "cancel-previous"
  | .forward name => name

/-- Whether a marker is passed through. -/
def isForwarded : Marker → Bool
  | .forward _ => true
  | _ => false

/-- What two markers that repeat each other agree on. -/
def key (a : Marker) : Bool × String :=
  (a.isForwarded, a.name)

/-- The content of a network marker. -/
def network? : Marker → Option NetworkMarker
  | .network content => some content
  | _ => none

/-- The binding of a transport marker. -/
def transport? : Marker → Option Transport
  | .transport binding => some binding
  | _ => none

/-- The content of a database marker. -/
def database? : Marker → Option DatabaseMarker
  | .database content => some content
  | _ => none

/-- The content of a memory marker. -/
def memory? : Marker → Option MemoryMarker
  | .memory content => some content
  | _ => none

/-- The content of a marker for the key-value store. -/
def keyValueStore? : Marker → Option KeyValueStoreMarker
  | .keyValueStore content => some content
  | _ => none

/-- The method that a marker reuses. -/
def reuse? : Marker → Option String
  | .reuse method => some method
  | _ => none

/-- The marker of a controller reference. -/
def controller? : Marker → Option ControllerMarker
  | .controllerReference marker => some marker
  | _ => none

/-- The request whose parameters the method builds. -/
def paramsProvider? : Marker → Option String
  | .paramsProvider target => some target
  | _ => none

/-- The name of a forwarded marker. -/
def forward? : Marker → Option String
  | .forward name => some name
  | _ => none

end Marker

end DataRequests
