import ConferenceFocus.Identity
import ConferenceFocus.Media.MediaType

/-!
# Failures of colibri calls

A call on a conference fails in one of five ways, which fall into three
kinds.  The kind is what callers decide by and what is counted; the message is
for people.  The wordings of the failures the focus itself raises are the
definitions at the end.
-/

namespace ConferenceFocus.Colibri

inductive FailureKind where
  /-- The bridge did not answer in time, or the request never left. -/
  | network
  /-- The bridge answered with an error or with something unusable. -/
  | protocol
  /-- The call was not valid in the state the conference was in. -/
  | illegalState
  deriving DecidableEq, Repr

namespace FailureKind

def label : FailureKind → String
  | network => "network_failure"
  | protocol => "protocol_error"
  | illegalState => "illegal_state"

end FailureKind

inductive Failure where
  | noReply (detail : String)
  | badReply (detail : String)
  | notAllowed (detail : String)
  /-- An operation needs channels of a medium that the descriptor lacks. -/
  | missingMedia (operation : String) (media : MediaType)
  | notSent (detail : String)
  deriving DecidableEq, Repr

namespace Failure

def kind : Failure → FailureKind
  | noReply _ | notSent _ => .network
  | badReply _ => .protocol
  | notAllowed _ | missingMedia .. => .illegalState

def message : Failure → String
  | noReply detail => "Network failure: " ++ detail
  | badReply detail => "Protocol error: " ++ detail
  | notAllowed detail => "Illegal state: " ++ detail
  | missingMedia operation media => s!"Cannot {operation}: no {media.name} channels"
  | notSent detail => "Transport error: " ++ detail

def noBridge : Failure := .notAllowed "no bridge address set"

/-- A conference stays on the bridge that hosts it. -/
def alreadyHosted (conference : ConferenceId) (address : BridgeAddress) : Failure :=
  .notAllowed s!"conference {conference} is already allocated, cannot move it to {address}"

def nothingToAllocate (endpoint : EndpointId) : Failure :=
  .notAllowed s!"no media contents to allocate for {endpoint}"

def silence (subject : String) (bridge : BridgeAddress) (milliseconds : Nat) : Failure :=
  .noReply s!"no {subject} reply from {bridge} within {milliseconds}ms"

/-- The bridge turned a request, named by `subject`, down. -/
def rejected (subject : String) (bridge : BridgeAddress) (condition : String) : Failure :=
  .badReply s!"{subject} rejected by {bridge}: {condition}"

/-- An allocation was answered by something of another kind than a conference. -/
def notAConference (bridge : BridgeAddress) (found : String) : Failure :=
  .badReply s!"allocation reply from {bridge} is not a colibri conference: {found}"

def anonymousReply : Failure := .badReply "allocation reply carries no conference id"

def foreignReply (found expected : ConferenceId) : Failure :=
  .badReply s!"allocation reply is for conference {found}, expected {expected}"

def unnamedChannel (media : MediaType) : Failure :=
  .badReply s!"allocation reply has a {media.name} channel without id"

end Failure

end ConferenceFocus.Colibri
