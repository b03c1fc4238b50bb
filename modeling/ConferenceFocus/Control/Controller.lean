import ConferenceFocus.Colibri.Allocation
import ConferenceFocus.Colibri.Draft
import ConferenceFocus.Control.Exchange
import ConferenceFocus.Control.Measurement

/-!
# The controller of one conference

A controller drives one conference on one bridge.  It holds the conference as
the bridge has confirmed it, which changes only when an allocation reply is
merged, when the whole conference is expired, and when it is named.

Allocations and source updates wait for the bridge; every other request is
handed over and forgotten, and its failure is counted but not reported.  Each
request takes the next sequence number, so that numbers follow the order of
sending; a call that hands nothing over takes none.
-/

namespace ConferenceFocus.Control

open Colibri

structure Controller where
  settings : Settings := {}
  bridge : Option BridgeAddress := none
  /-- The conference as confirmed by the bridge. -/
  state : Conference := {}
  /-- Goes up with every change of `state`. -/
  version : UInt64 := 0
  /-- Set by an allocation that opened a conference, until it is read. -/
  justAllocated : Bool := false
  /-- The number of the last request. -/
  lastSeq : UInt64 := 0
  deriving DecidableEq, Repr

inductive Answer where
  | done
  | allocated (channels : Conference)
  | flag (raised : Bool)
  | failed (cause : Failure)
  deriving DecidableEq, Repr

/-- The end of a call: the controller then, the answer and what was measured. -/
structure Turn where
  controller : Controller
  answer : Answer := .done
  measurements : List Measurement := []
  deriving DecidableEq, Repr

namespace Controller

/-- Draws the number of the next request. -/
def drawSeq (controller : Controller) : UInt64 × Controller :=
  let seq := controller.lastSeq + 1
  (seq, { controller with lastSeq := seq })

/-- Composes the request for one intent, unless the intent says that it asks for
nothing.  The request names the conference as it is called now; its number is
drawn before it is finished. -/
def compose (controller : Controller) (bridge : BridgeAddress) (intent : Intent) :
    Option Request × Controller :=
  let draft := Draft.about controller.settings controller.state.id controller.state.name
  let (draft, added) := draft.add intent
  if !added then (none, controller)
  else
    let (seq, controller) := controller.drawSeq
    (draft.request? bridge seq, controller)

def confirm (controller : Controller) (state : Conference) : Controller :=
  { controller with state, version := controller.version + 1 }

/-- Sets the bridge that is to host the conference; it cannot be moved later. -/
def setBridge (controller : Controller) (address : BridgeAddress) : Turn :=
  if controller.bridge = some address then { controller }
  else match controller.state.id with
    | some conference => { controller, answer := .failed (.alreadyHosted conference address) }
    | none => { controller := { controller with bridge := some address } }

def setName (controller : Controller) (name : String) : Turn :=
  { controller := controller.confirm { controller.state with name := some name } }

/-- Reads and clears the sign that a conference was opened. -/
def takeJustAllocated (controller : Controller) : Turn :=
  { controller := { controller with justAllocated := false },
    answer := .flag controller.justAllocated }

section Allocation

def allocationReply (controller : Controller) (bridge : BridgeAddress) :
    Delivery → Except Failure Conference
  | .answered (.conference body) => .ok body
  | .answered (.error condition) =>
      .error (.rejected "allocation" bridge condition.message)
  | .answered (.unexpected kind) => .error (.notAConference bridge kind)
  | .refused cause => .error cause
  | .silence =>
      .error (.silence "allocation" bridge controller.settings.replyTimeout.milliseconds)

/-- Merges the reply to an allocation, and picks out what was asked for. -/
def settleAllocation (controller : Controller) (bridge : BridgeAddress)
    (contents : List MediaContent) (delivery : Delivery) :
    Except Failure (Conference × Controller) := do
  let reply ← controller.allocationReply bridge delivery
  let merged ← controller.state.merge reply
  return (reply.restrictTo contents,
    { controller.confirm merged with
      justAllocated := controller.justAllocated || controller.state.id.isNone })

/-- Ends an allocation: every one is timed and counted, and one that failed
leaves the controller as it was. -/
def finishAllocation (controller : Controller) :
    Except Failure (Conference × Controller) → Turn
  | .ok (channels, controller) =>
      { controller, answer := .allocated channels,
        measurements := [.allocationTime, .request .allocateChannels .success] }
  | .error cause =>
      { controller, answer := .failed cause,
        measurements :=
          [.allocationTime, .request .allocateChannels (.failure cause.kind)] }

def allocate (controller : Controller) (useBundle : Bool) (endpoint : EndpointId)
    (initiator : Bool) (contents : List MediaContent) : Exchange Turn :=
  match controller.bridge with
  | none => .finished (controller.finishAllocation (.error .noBridge))
  | some bridge =>
      match controller.compose bridge (.allocate useBundle endpoint initiator contents) with
      | (none, controller) =>
          .finished (controller.finishAllocation (.error (.nothingToAllocate endpoint)))
      | (some request, controller) =>
          .ask request fun delivery =>
            controller.finishAllocation (controller.settleAllocation bridge contents delivery)

end Allocation

section SourceUpdate

/-- How the reply to a source update is taken: only an error element is one. -/
def updateFailure? (controller : Controller) (bridge : BridgeAddress) :
    Delivery → Option Failure
  | .answered (.error condition) =>
      some (.rejected "source update" bridge condition.message)
  | .answered (.conference _) | .answered (.unexpected _) => none
  | .refused cause => some cause
  | .silence =>
      some (.silence "source update" bridge controller.settings.replyTimeout.milliseconds)

/-- Ends a source update, which is counted whether or not anything was sent. -/
def finishUpdate (controller : Controller) (failure : Option Failure) : Turn :=
  { controller, answer := (failure.map Answer.failed).getD .done,
    measurements := [.request .updateSources (.ofFailure? failure)] }

/-- Replaces the sources and groups of channels and waits for the bridge. -/
def updateSources (controller : Controller) (streams : Streams) (channels : Conference) :
    Exchange Turn :=
  match controller.bridge with
  | none => .finished (controller.finishUpdate (some .noBridge))
  | some bridge =>
      match controller.compose bridge (.replaceStreams streams channels) with
      | (none, controller) => .finished (controller.finishUpdate none)
      | (some request, controller) =>
          .ask request fun delivery =>
            controller.finishUpdate (controller.updateFailure? bridge delivery)

end SourceUpdate

/-- Hands a request over without waiting.  Without a bridge it is dropped and
counted; an intent that asks for nothing leaves no trace. -/
def dispatch (controller : Controller) (operation : Operation) (intent : Intent) :
    Exchange Turn :=
  match controller.bridge with
  | none =>
      .finished { controller, measurements := [.request operation (.failure .illegalState)] }
  | some bridge =>
      match controller.compose bridge intent with
      | (none, controller) => .finished { controller }
      | (some request, controller) =>
          .post request fun refusal =>
            { controller, measurements := [.request operation (.ofFailure? refusal)] }

def expireChannels (controller : Controller) (channels : Conference) : Exchange Turn :=
  controller.dispatch .expireChannels (.expire channels)

def forget (controller : Controller) : Controller :=
  controller.confirm {}

/-- Expires all channels of the conference and forgets it, so that the next
allocation opens a new one.  Without a conference nothing happens. -/
def expireConference (controller : Controller) : Exchange Turn :=
  match controller.state.id with
  | none => .finished { controller }
  | some _ =>
      (controller.dispatch .expireConference (.expire controller.state)).map fun turn =>
        { turn with controller := turn.controller.forget }

def updateCodecs (controller : Controller) (descriptions : MediaMap RtpDescription)
    (channels : Conference) : Exchange Turn :=
  controller.dispatch .updateCodecs (.updateCodecs descriptions channels)

def updateTransports (controller : Controller) (initiator : Bool)
    (transports : MediaMap IceUdpTransport) (channels : Conference) : Exchange Turn :=
  controller.dispatch .updateTransports (.updateTransports initiator transports channels)

def updateBundle (controller : Controller) (initiator : Bool) (transport : IceUdpTransport)
    (channels : Conference) : Exchange Turn :=
  controller.dispatch .updateBundle (.updateBundle initiator transport channels)

/-- The first of audio and video of which a descriptor has no allocated channel. -/
def missingMedia? (channels : Conference) : Option MediaType :=
  [MediaType.audio, MediaType.video].find? fun media => channels.allocatedCountFor media = 0

/-- Stops the audio and video of a participant, or lets them flow again.  The
descriptor is checked before the bridge. -/
def setInactive (controller : Controller) (operation : Operation) (channels : Conference)
    (inactive : Bool) : Exchange Turn :=
  let refuse (cause : Failure) : Exchange Turn :=
    .finished
      { controller, answer := .failed cause,
        measurements := [.request operation (.failure cause.kind)] }
  match missingMedia? channels with
  | some media => refuse (.missingMedia operation.label media)
  | none =>
      if controller.bridge.isNone then refuse .noBridge
      else controller.dispatch operation
        (.setDirection (if inactive then .inactive else .sendrecv) channels)

def mute (controller : Controller) (channels : Conference) (on : Bool) : Exchange Turn :=
  controller.setInactive .muteParticipant channels on

def hold (controller : Controller) (channels : Conference) (on : Bool) : Exchange Turn :=
  controller.setInactive .holdParticipant channels on

end Controller

end ConferenceFocus.Control
