import ConferenceFocus.Fleet.Selector

/-!
# Subscriptions to bridge events

A subscriber sees the events published after it subscribed.  Only the newest
events are kept for it: one that falls further behind is told how many it has
lost, and goes on with those that are kept.
-/

namespace ConferenceFocus.Fleet

def keptEvents : Nat := 64

inductive Notice where
  | event (event : BridgeEvent)
  /-- So many events were lost. -/
  | lagged (lost : Nat)
  deriving DecidableEq, Repr

structure Subscription where
  /-- The number of events that are behind the subscriber. -/
  position : Nat
  deriving DecidableEq, Repr

namespace Subscription

def start (selector : Selector) : Subscription := ⟨selector.events.length⟩

def drain (subscription : Subscription) (selector : Selector) : List Notice × Subscription :=
  let unread := selector.events.drop subscription.position
  let lost := unread.length - keptEvents
  let lag := if lost = 0 then [] else [Notice.lagged lost]
  (lag ++ (unread.drop lost).map Notice.event, start selector)

end Subscription

end ConferenceFocus.Fleet
