import DaemonMesh.Failure
import DaemonMesh.Text.Characters

namespace DaemonMesh

/-- What a router is set up with: the depth of the queues it opens and the filter for the log
of the program around it. -/
structure RouterConfig where
  queueCapacity : UInt64
  logFilter : String
deriving DecidableEq, Repr

namespace RouterConfig

def default : RouterConfig := ⟨256, "busroute=info"⟩

/-- The deepest queue a link may have. -/
def maxQueueCapacity : Nat := 1048576

def withQueueCapacity (config : RouterConfig) (queueCapacity : UInt64) : RouterConfig :=
  { config with queueCapacity }

def withLogFilter (config : RouterConfig) (logFilter : String) : RouterConfig :=
  { config with logFilter }

def capacityInBounds (config : RouterConfig) : Bool :=
  0 < config.queueCapacity.toNat && config.queueCapacity.toNat ≤ maxQueueCapacity

/-- The capacity is judged first, so it is named when both values are bad. -/
def validate (config : RouterConfig) : Except ConfigError Unit :=
  if !config.capacityInBounds then
    .error (.invalidValue "link_queue_capacity"
      (toString config.queueCapacity.toNat ++ " is outside 1..=" ++ toString maxQueueCapacity))
  else if isBlankText config.logFilter then
    .error (.invalidValue "log_filter" "must not be empty")
  else .ok ()

end RouterConfig

end DaemonMesh
