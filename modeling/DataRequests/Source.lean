/-!
# Sources

A request reads from up to four kinds of source: the network, a database, memory and a key-value store. For each kind a
request has a configuration, `SourceConfig`: whether the kind is enabled, whether the method itself declares it, and the
options of the kind. The four together are `SourceConfigs`.

A kind may be enabled without being declared, by default or because another method's handle enables it; a request that is
restricted to its targets executes the declared kinds alone.
-/

namespace DataRequests

/-- A backend that a request may read from. -/
inductive SourceKind where
  | network
  | database
  | memory
  | keyValueStore
  deriving DecidableEq, Repr

namespace SourceKind

/-- The kinds, in the order in which they are listed. -/
def all : List SourceKind :=
  [.network, .database, .memory, .keyValueStore]

/-- The kinds, in the order in which sources are passed to a data-access handle. -/
def constructionOrder : List SourceKind :=
  [.memory, .database, .keyValueStore, .network]

/-- The name of a kind. -/
def name : SourceKind → String
  | .network => "network"
  | .database => "database"
  | .memory => "memory"
  | .keyValueStore => "key-value-store"

/-- The kind with a given name. -/
def ofName? (name : String) : Option SourceKind :=
  all.find? (·.name = name)

/-- The name of the request target that stands for a kind at run time. Both kinds of storage are the disk. -/
def requestTarget : SourceKind → String
  | .network => "network"
  | .database | .keyValueStore => "disk"
  | .memory => "memory"

end SourceKind

/-- The configuration of one kind of source for one method. -/
structure SourceConfig (Options : Type) where
  enabled : Bool
  /-- Whether the method itself carries the annotation for this kind. -/
  declared : Bool
  options : Options
  deriving DecidableEq, Repr

/-- The configuration of a kind that the method declares. -/
def SourceConfig.declare {Options : Type} (options : Options) : SourceConfig Options :=
  ⟨true, true, options⟩

/-- The configuration of a kind that the method does not declare. -/
def SourceConfig.absent {Options : Type} (options : Options) : SourceConfig Options :=
  ⟨false, false, options⟩

/-- A transport binding, such as `GET /items`. -/
structure Transport where
  verb : String
  path : String
  deriving DecidableEq, Repr

/-- The options of the network. An absent transform does nothing; an absent refresh strategy is the library's own. -/
structure NetworkOptions where
  responseTransform : Option String := none
  errorTransform : Option String := none
  refreshStrategy : Option String := none
  /-- The result type of the raw transport call, where it differs. -/
  callReturnType : Option String := none
  transport : Option Transport := none
  deriving DecidableEq, Repr

/-- The options of a database. -/
structure DatabaseOptions where
  isSingleResult : Bool := true
  isAsync : Bool := false
  refreshStrategy : Option String := none
  deriving DecidableEq, Repr

/-- The options of memory. -/
structure MemoryOptions where
  refreshStrategy : Option String := none
  deriving DecidableEq, Repr

/-- The options of a key-value store. -/
structure KeyValueStoreOptions where
  /-- The type that reads and writes values in the store. -/
  delegateType : Option String := none
  /-- The field under which the delegate is kept. -/
  storageFieldName : String := ""
  refreshStrategy : Option String := none
  deriving DecidableEq, Repr

/-- The configurations of the four kinds for one method. -/
structure SourceConfigs where
  network : SourceConfig NetworkOptions
  database : SourceConfig DatabaseOptions
  memory : SourceConfig MemoryOptions
  keyValueStore : SourceConfig KeyValueStoreOptions
  deriving DecidableEq, Repr

namespace SourceConfigs

/-- No kind declared or enabled, all options at their defaults. -/
def empty : SourceConfigs :=
  ⟨.absent {}, .absent {}, .absent {}, .absent {}⟩

/-- Whether a kind is enabled. -/
def isEnabled (s : SourceConfigs) : SourceKind → Bool
  | .network => s.network.enabled
  | .database => s.database.enabled
  | .memory => s.memory.enabled
  | .keyValueStore => s.keyValueStore.enabled

/-- Whether the method itself declares a kind. -/
def isDeclared (s : SourceConfigs) : SourceKind → Bool
  | .network => s.network.declared
  | .database => s.database.declared
  | .memory => s.memory.declared
  | .keyValueStore => s.keyValueStore.declared

/-- The same configurations with the kinds enabled that a predicate gives. -/
def withEnabled (s : SourceConfigs) (enabled : SourceKind → Bool) : SourceConfigs where
  network := { s.network with enabled := enabled .network }
  database := { s.database with enabled := enabled .database }
  memory := { s.memory with enabled := enabled .memory }
  keyValueStore := { s.keyValueStore with enabled := enabled .keyValueStore }

/-- The same configurations with the kinds declared that a predicate gives. -/
def withDeclared (s : SourceConfigs) (declared : SourceKind → Bool) : SourceConfigs where
  network := { s.network with declared := declared .network }
  database := { s.database with declared := declared .database }
  memory := { s.memory with declared := declared .memory }
  keyValueStore := { s.keyValueStore with declared := declared .keyValueStore }

/-- The same configurations with one kind switched on or off. -/
def setEnabled (s : SourceConfigs) (kind : SourceKind) (enabled : Bool) : SourceConfigs :=
  s.withEnabled fun k => if k = kind then enabled else s.isEnabled k

/-- Whether the method itself declares any kind. -/
def declaresAny (s : SourceConfigs) : Bool :=
  SourceKind.all.any s.isDeclared

/-- The enabled kinds, in construction order. -/
def enabledKinds (s : SourceConfigs) : List SourceKind :=
  SourceKind.constructionOrder.filter s.isEnabled

/-- The declared kinds, in construction order. -/
def declaredKinds (s : SourceConfigs) : List SourceKind :=
  SourceKind.constructionOrder.filter s.isDeclared

/-- The refresh strategy of a kind. -/
def refreshStrategy (s : SourceConfigs) : SourceKind → Option String
  | .network => s.network.options.refreshStrategy
  | .database => s.database.options.refreshStrategy
  | .memory => s.memory.options.refreshStrategy
  | .keyValueStore => s.keyValueStore.options.refreshStrategy

/-- Whether both kinds of storage are enabled. -/
def hasConflictingStorage (s : SourceConfigs) : Bool :=
  s.database.enabled && s.keyValueStore.enabled

end SourceConfigs

end DataRequests
