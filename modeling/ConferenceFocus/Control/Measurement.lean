import ConferenceFocus.Colibri.Failure

/-!
# What is measured about conference calls

Each request is counted under the operation it belongs to and the outcome it
had.  The labels come from two closed sets, so their number stays small.
-/

namespace ConferenceFocus.Control

open Colibri

inductive Operation where
  | allocateChannels
  | expireChannels
  | expireConference
  | updateCodecs
  | updateTransports
  | updateBundle
  | updateSources
  | muteParticipant
  | holdParticipant
  deriving DecidableEq, Repr

namespace Operation

def label : Operation → String
  | allocateChannels => "allocate_channels"
  | expireChannels => "expire_channels"
  | expireConference => "expire_conference"
  | updateCodecs => "update_rtp_description"
  | updateTransports => "update_transport"
  | updateBundle => "update_bundle_transport"
  | updateSources => "update_sources"
  | muteParticipant => "mute_participant"
  | holdParticipant => "hold_participant"

end Operation

inductive Outcome where
  | success
  | failure (kind : FailureKind)
  deriving DecidableEq, Repr

namespace Outcome

def label : Outcome → String
  | success => "success"
  | failure kind => kind.label

def ofFailure? : Option Failure → Outcome
  | none => success
  | some cause => failure cause.kind

end Outcome

inductive Measurement where
  | request (operation : Operation) (outcome : Outcome)
  /-- One allocation was timed, from the call to its result. -/
  | allocationTime
  deriving DecidableEq, Repr

end ConferenceFocus.Control
