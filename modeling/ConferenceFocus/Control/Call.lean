import ConferenceFocus.Control.Controller

/-!
# Calls and runs of a controller

Everything that can be asked of a controller, as data, and what a sequence of
calls over a link leads to.
-/

namespace ConferenceFocus.Control

open Colibri

inductive Call where
  | setBridge (address : BridgeAddress)
  | setName (name : String)
  | takeJustAllocated
  | allocate (useBundle : Bool) (endpoint : EndpointId) (initiator : Bool)
      (contents : List MediaContent)
  | expireChannels (channels : Conference)
  | expireConference
  | updateCodecs (descriptions : MediaMap RtpDescription) (channels : Conference)
  | updateTransports (initiator : Bool) (transports : MediaMap IceUdpTransport)
      (channels : Conference)
  | updateBundle (initiator : Bool) (transport : IceUdpTransport) (channels : Conference)
  | updateSources (streams : Streams) (channels : Conference)
  | mute (channels : Conference) (on : Bool)
  | hold (channels : Conference) (on : Bool)

namespace Controller

def handle (controller : Controller) : Call → Exchange Turn
  | .setBridge address => .finished (controller.setBridge address)
  | .setName name => .finished (controller.setName name)
  | .takeJustAllocated => .finished controller.takeJustAllocated
  | .allocate useBundle endpoint initiator contents =>
      controller.allocate useBundle endpoint initiator contents
  | .expireChannels channels => controller.expireChannels channels
  | .expireConference => controller.expireConference
  | .updateCodecs descriptions channels => controller.updateCodecs descriptions channels
  | .updateTransports initiator transports channels =>
      controller.updateTransports initiator transports channels
  | .updateBundle initiator transport channels =>
      controller.updateBundle initiator transport channels
  | .updateSources streams channels => controller.updateSources streams channels
  | .mute channels on => controller.mute channels on
  | .hold channels on => controller.hold channels on

/-- Handles one call over a link. -/
def call {σ : Type} (link : Link σ) (controller : Controller) (peer : σ) (call : Call) :
    Turn × σ :=
  (controller.handle call).run link peer

end Controller

end ConferenceFocus.Control
