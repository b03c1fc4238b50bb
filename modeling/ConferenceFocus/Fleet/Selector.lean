import ConferenceFocus.Identity
import ConferenceFocus.Keyed

/-!
# The choice of a bridge

A selector knows the videobridges at hand, which of them work and how many
conferences each hosts.  Whenever a bridge becomes usable, or stops being
known or usable, it publishes an event, and with each event it reports how
many bridges work at that moment.
-/

namespace ConferenceFocus.Fleet

inductive BridgeEvent where
  | up (address : BridgeAddress)
  | down (address : BridgeAddress)
  deriving DecidableEq, Repr

structure KnownBridge where
  address : BridgeAddress
  operational : Bool := true
  conferences : Nat := 0
  deriving DecidableEq, Repr

instance : Keyed KnownBridge BridgeAddress := ⟨KnownBridge.address⟩

namespace KnownBridge

/-- Whether a bridge is to be chosen before another: it hosts fewer
conferences, or as many at a lower address. -/
def precedes (left right : KnownBridge) : Bool :=
  left.conferences < right.conferences ||
    (left.conferences == right.conferences && left.address.text < right.address.text)

/-- The bridge to be chosen before all others of a list. -/
def first? : List KnownBridge → Option KnownBridge
  | [] => none
  | bridge :: rest =>
      match first? rest with
      | none => some bridge
      | some other => some (if other.precedes bridge then other else bridge)

end KnownBridge

structure Selector where
  /-- Chosen whenever it works. -/
  preferred : Option BridgeAddress := none
  bridges : List KnownBridge := []
  /-- Every event published so far, the oldest first. -/
  events : List BridgeEvent := []
  /-- The number of working bridges last reported. -/
  reported : Option Nat := none
  deriving DecidableEq, Repr

namespace Selector

def find? (selector : Selector) (address : BridgeAddress) : Option KnownBridge :=
  Keyed.find? selector.bridges address

def isKnown (selector : Selector) (address : BridgeAddress) : Bool :=
  (selector.find? address).isSome

def isOperational (selector : Selector) (address : BridgeAddress) : Bool :=
  (selector.find? address).any (·.operational)

def operationalCount (selector : Selector) : Nat :=
  (selector.bridges.filter (·.operational)).length

/-- Publishes an event together with the number of working bridges. -/
def publish (selector : Selector) (event : BridgeEvent) : Selector :=
  { selector with
    events := selector.events ++ [event],
    reported := some selector.operationalCount }

/-- Takes a bridge in as working; a known one stays as it is. -/
def add (selector : Selector) (address : BridgeAddress) : Selector :=
  if selector.isKnown address then selector
  else publish { selector with bridges := selector.bridges ++ [{ address }] } (.up address)

def remove (selector : Selector) (address : BridgeAddress) : Selector :=
  if selector.isKnown address then
    publish { selector with bridges := Keyed.erase selector.bridges address } (.down address)
  else selector

/-- Notes whether a known bridge works; only a change is published. -/
def setOperational (selector : Selector) (address : BridgeAddress) (operational : Bool) :
    Selector :=
  match selector.find? address with
  | none => selector
  | some bridge =>
      if bridge.operational = operational then selector
      else
        let bridges := Keyed.adjust selector.bridges address fun known =>
          { known with operational }
        publish { selector with bridges } (if operational then .up address else .down address)

def setConferences (selector : Selector) (address : BridgeAddress) (count : Nat) : Selector :=
  { selector with
    bridges := Keyed.adjust selector.bridges address fun known =>
      { known with conferences := count } }

/-- The bridge for a new conference: the preferred one while it works, otherwise
the working one with the fewest conferences. -/
def select? (selector : Selector) : Option BridgeAddress :=
  (selector.preferred.filter selector.isOperational).or
    ((KnownBridge.first? (selector.bridges.filter (·.operational))).map (·.address))

end Selector

end ConferenceFocus.Fleet
