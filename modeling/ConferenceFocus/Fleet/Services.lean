import ConferenceFocus.Fleet.Selector

/-!
# Discovered components

What the focus makes of the components it discovers, by the features they
advertise: videobridges go to the selector, and of recorders and SIP gateways
the first one found is kept.
-/

namespace ConferenceFocus.Fleet

inductive Role where
  | videobridge
  | recorder
  | sipGateway
  deriving DecidableEq, Repr

namespace Role

def requiredFeatures : Role → List String
  | videobridge =>
      ["http://jitsi.org/protocol/colibri",
        "urn:xmpp:jingle:apps:dtls:0",
        "urn:xmpp:jingle:transports:ice-udp:1",
        "urn:xmpp:jingle:transports:raw-udp:0"]
  | recorder => ["http://jitsi.org/protocol/jirecon"]
  | sipGateway => ["http://jitsi.org/protocol/jigasi", "urn:xmpp:rayo:0"]

def suits (role : Role) (features : List String) : Bool :=
  role.requiredFeatures.all features.contains

end Role

structure Services where
  selector : Selector := {}
  recorder : Option String := none
  sipGateway : Option String := none
  deriving DecidableEq, Repr

namespace Services

/-- Gives a discovered node the first role that it suits and that is open.
There is always room for one more videobridge. -/
def discover (services : Services) (node : String) (features : List String) :
    Option Role × Services :=
  if Role.videobridge.suits features then
    (some .videobridge, { services with selector := services.selector.add ⟨node⟩ })
  else if services.recorder.isNone && Role.recorder.suits features then
    (some .recorder, { services with recorder := some node })
  else if services.sipGateway.isNone && Role.sipGateway.suits features then
    (some .sipGateway, { services with sipGateway := some node })
  else (none, services)

/-- Takes from a node that went away the first role it has: videobridge,
recorder, SIP gateway. -/
def lose (services : Services) (node : String) : Services :=
  if services.selector.isKnown ⟨node⟩ then
    { services with selector := services.selector.remove ⟨node⟩ }
  else if services.recorder = some node then { services with recorder := none }
  else if services.sipGateway = some node then { services with sipGateway := none }
  else services

end Services

end ConferenceFocus.Fleet
