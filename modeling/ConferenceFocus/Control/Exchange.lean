import ConferenceFocus.Colibri.Failure
import ConferenceFocus.Colibri.Request

/-!
# Exchanges with a bridge

A call on a controller either finishes by itself or hands one request over and
finishes with what becomes of it.  An `Exchange` says which, and leaves open
what is at the other end; a `Link` is what can be there.  Running an exchange
over a link is the only place where the two meet, so a statement about every
link covers every reply, refusal and silence.
-/

namespace ConferenceFocus.Control

open Colibri

/-- What becomes of a request whose reply is awaited. -/
inductive Delivery where
  | answered (reply : Reply)
  | refused (cause : Failure)
  | silence
  deriving DecidableEq, Repr

/-- A computation that hands over at most one request. -/
inductive Exchange (α : Type) where
  | finished (result : α)
  /-- Hands a request over and waits for the reply. -/
  | ask (request : Request) (resume : Delivery → α)
  /-- Hands a request over and does not wait; learns only of a refusal. -/
  | post (request : Request) (resume : Option Failure → α)

/-- The far end of an exchange, with the states it goes through. -/
structure Link (σ : Type) where
  ask : Request → σ → Delivery × σ
  post : Request → σ → Option Failure × σ

namespace Exchange

variable {α β σ : Type}

def map (f : α → β) : Exchange α → Exchange β
  | finished result => finished (f result)
  | ask request resume => ask request fun delivery => f (resume delivery)
  | post request resume => post request fun refusal => f (resume refusal)

def request? : Exchange α → Option Request
  | finished _ => none
  | ask request _ | post request _ => some request

def run (link : Link σ) (peer : σ) : Exchange α → α × σ
  | finished result => (result, peer)
  | ask request resume =>
      let (delivery, after) := link.ask request peer
      (resume delivery, after)
  | post request resume =>
      let (refusal, after) := link.post request peer
      (resume refusal, after)

@[simp] theorem request?_map (f : α → β) (exchange : Exchange α) :
    (exchange.map f).request? = exchange.request? := by
  cases exchange <;> rfl

@[simp] theorem run_map (f : α → β) (link : Link σ) (peer : σ) (exchange : Exchange α) :
    (exchange.map f).run link peer =
      (f (exchange.run link peer).1, (exchange.run link peer).2) := by
  cases exchange <;> rfl

end Exchange

end ConferenceFocus.Control
