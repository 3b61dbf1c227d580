import DataRequests.Source

/-!
# Layers of defaults

The options that a method leaves unset are filled in from defaults. Defaults come in layers: the settings of the project,
the declaration document, the interface, and the network block of the interface. A higher layer wins field by field over a
lower one, and the method's own value wins over them all.
-/

namespace DataRequests

/-- The options that one layer sets for the methods below it. -/
structure Defaults where
  responseTransform : Option String := none
  errorTransform : Option String := none
  refreshStrategy : Option String := none
  deriving DecidableEq, Repr

/-- The options that the network block of an interface sets; it has no refresh strategy. -/
structure NetworkDefaults where
  responseTransform : Option String := none
  errorTransform : Option String := none
  deriving DecidableEq, Repr

/-- The network block of an interface as a layer. -/
def NetworkDefaults.layer (n : NetworkDefaults) : Defaults :=
  { responseTransform := n.responseTransform, errorTransform := n.errorTransform }

namespace Defaults

/-- A layer with a higher one over it. -/
def overlay (lower higher : Defaults) : Defaults where
  responseTransform := higher.responseTransform.or lower.responseTransform
  errorTransform := higher.errorTransform.or lower.errorTransform
  refreshStrategy := higher.refreshStrategy.or lower.refreshStrategy

/-- A layer with a higher one over it, if there is one. -/
def overlay? (lower : Defaults) : Option Defaults → Defaults
  | none => lower
  | some higher => lower.overlay higher

/-- The defaults that the methods of an interface see: its own layer, and over that its network block. -/
def forInterface (outer : Defaults) (config : Option Defaults) (network : Option NetworkDefaults) : Defaults :=
  (outer.overlay? config).overlay? (network.map NetworkDefaults.layer)

end Defaults

/-- Network options with the defaults for what is unset. -/
def NetworkOptions.withDefaults (o : NetworkOptions) (d : Defaults) : NetworkOptions :=
  { o with
    responseTransform := o.responseTransform.or d.responseTransform
    errorTransform := o.errorTransform.or d.errorTransform
    refreshStrategy := o.refreshStrategy.or d.refreshStrategy }

/-- Source configurations with the defaults for what is unset. -/
def SourceConfigs.withDefaults (s : SourceConfigs) (d : Defaults) : SourceConfigs where
  network := { s.network with options := s.network.options.withDefaults d }
  database := { s.database with
    options := { s.database.options with
      refreshStrategy := s.database.options.refreshStrategy.or d.refreshStrategy } }
  memory := { s.memory with
    options := { refreshStrategy := s.memory.options.refreshStrategy.or d.refreshStrategy } }
  keyValueStore := { s.keyValueStore with
    options := { s.keyValueStore.options with
      refreshStrategy := s.keyValueStore.options.refreshStrategy.or d.refreshStrategy } }

end DataRequests
