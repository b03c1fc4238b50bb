import ConferenceFocus.Control.Exchange

/-!
# A bridge that follows a script

Answers awaited requests from a list of prepared replies, and records what it
received.  It keeps no conferences.
-/

namespace ConferenceFocus.Simulation

open Colibri Control

inductive ScriptedReply where
  | answer (reply : Reply)
  | silence
  /-- The request is refused, and not received. -/
  | disconnected
  deriving DecidableEq, Repr

structure ReceivedRequest where
  request : Request
  awaited : Bool
  deriving DecidableEq, Repr

structure ScriptedBridge where
  replies : List ScriptedReply := []
  refusesPosts : Bool := false
  received : List ReceivedRequest := []
  deriving DecidableEq, Repr

namespace ScriptedBridge

def disconnection : Failure := .notSent "mock bridge disconnected"

def record (bridge : ScriptedBridge) (request : Request) (awaited : Bool) : ScriptedBridge :=
  { bridge with received := bridge.received ++ [{ request, awaited }] }

/-- Plays the next reply.  Past the end of the script the answer is unusable. -/
def ask (request : Request) (bridge : ScriptedBridge) : Delivery × ScriptedBridge :=
  match bridge.replies with
  | [] => (.answered (.unexpected "no scripted reply"), bridge.record request true)
  | next :: rest =>
      let bridge := { bridge with replies := rest }
      match next with
      | .answer reply => (.answered reply, bridge.record request true)
      | .silence => (.silence, bridge.record request true)
      | .disconnected => (.refused disconnection, bridge)

def post (request : Request) (bridge : ScriptedBridge) : Option Failure × ScriptedBridge :=
  if bridge.refusesPosts then (some disconnection, bridge)
  else (none, bridge.record request false)

def link : Link ScriptedBridge := { ask, post }

end ScriptedBridge

end ConferenceFocus.Simulation
