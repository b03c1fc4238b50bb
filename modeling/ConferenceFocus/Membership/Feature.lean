/-!
# Protocol features

Features that a participant advertises through service discovery, each known
by a URI.
-/

namespace ConferenceFocus

inductive Feature where
  | rtcpMux
  | rtpBundle
  | dtls
  | iceUdp
  | sctp
  | audio
  | video
  /-- Marks the SIP gateway component. -/
  | sipGateway
  deriving DecidableEq, Repr

namespace Feature

def all : List Feature :=
  [.rtcpMux, .rtpBundle, .dtls, .iceUdp, .sctp, .audio, .video, .sipGateway]

def uri : Feature → String
  | rtcpMux => "urn:ietf:rfc:5761"
  | rtpBundle => "urn:ietf:rfc:5888"
  | dtls => "urn:xmpp:jingle:apps:dtls:0"
  | iceUdp => "urn:xmpp:jingle:transports:ice-udp:1"
  | sctp => "urn:xmpp:jingle:transports:dtls-sctp:1"
  | audio => "urn:xmpp:jingle:apps:rtp:audio"
  | video => "urn:xmpp:jingle:apps:rtp:video"
  | sipGateway => "http://jitsi.org/protocol/jigasi"

def ofUri? (uri : String) : Option Feature :=
  all.find? (·.uri == uri)

/-- The features named by a list of URIs, in the order of `all`; a URI that
names none is passed over. -/
def ofUris (uris : List String) : List Feature :=
  all.filter (uris.contains ·.uri)

theorem ofUri?_uri (feature : Feature) : ofUri? feature.uri = some feature := by
  cases feature <;> decide

theorem mem_ofUris {feature : Feature} {uris : List String} :
    feature ∈ ofUris uris ↔ feature.uri ∈ uris := by
  have known : feature ∈ all := by cases feature <;> decide
  simp [ofUris, known]

end Feature

end ConferenceFocus
