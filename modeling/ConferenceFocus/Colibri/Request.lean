import ConferenceFocus.Colibri.Conference
import ConferenceFocus.Telemetry.Duration

/-!
# Requests to a bridge and what comes back
-/

namespace ConferenceFocus.Colibri

/-- What a conference asks of its bridge, the same for all its participants. -/
structure Settings where
  /-- How long an awaited request waits. -/
  replyTimeout : Duration := .ofMilliseconds 15000
  /-- Last-N value of newly allocated video channels. -/
  channelLastN : Option Nat := none
  adaptiveLastN : Bool := false
  adaptiveSimulcast : Bool := false
  deriving DecidableEq, Repr

structure Request where
  bridge : BridgeAddress
  /-- Counts the requests of one conference in the order of sending. -/
  seq : UInt64
  conference : Conference
  deriving DecidableEq, Repr

structure ErrorCondition where
  condition : String
  text : Option String := none
  deriving DecidableEq, Repr

namespace ErrorCondition

/-- The condition, and behind it the explanation if there is one. -/
def message (error : ErrorCondition) : String :=
  match error.text with
  | some text => error.condition ++ ": " ++ text
  | none => error.condition

end ErrorCondition

inductive Reply where
  | conference (body : Conference)
  | error (condition : ErrorCondition)
  /-- Neither of the two; `kind` says what it was. -/
  | unexpected (kind : String)
  deriving DecidableEq, Repr

end ConferenceFocus.Colibri
