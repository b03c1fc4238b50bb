import ConferenceFocus.Telemetry.Duration

/-!
# The metrics registry

Three metrics: colibri requests counted by operation and outcome, the times
that allocations took, and the number of working bridges.
-/

namespace ConferenceFocus

/-- The labels of one request counter. -/
structure RequestLabels where
  operation : String
  outcome : String
  deriving DecidableEq, Repr

structure Registry where
  /-- The counters that have been used, with their totals. -/
  requests : List (RequestLabels × Nat) := []
  /-- The times of all allocations, in the order of their recording. -/
  allocations : List Duration := []
  /-- The number of working bridges, as last given. -/
  operationalBridges : Option Nat := none
  deriving DecidableEq, Repr

namespace Registry

def requestsName : String := "focus_colibri_requests_total"

def allocationsName : String := "focus_colibri_allocate_duration_seconds"

def bridgesName : String := "focus_bridges_operational"

def requestCount (registry : Registry) (labels : RequestLabels) : Nat :=
  (registry.requests.lookup labels).getD 0

def countRequest (registry : Registry) (labels : RequestLabels) : Registry :=
  { registry with
    requests := registry.requests.filter (·.1 ≠ labels) ++
      [(labels, registry.requestCount labels + 1)] }

def recordAllocation (registry : Registry) (duration : Duration) : Registry :=
  { registry with allocations := registry.allocations ++ [duration] }

def setOperationalBridges (registry : Registry) (count : Nat) : Registry :=
  { registry with operationalBridges := some count }

def gaugeValue (count : Nat) : Float := (UInt64.ofNat count).toFloat

end Registry

end ConferenceFocus
