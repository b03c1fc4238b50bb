import ConferenceFocus.Media.MediaType

/-!
# Codecs and transports

What signaling negotiates for a medium and the bridge is told about it: the
payload types of an RTP description, and the ICE and DTLS data of a transport.
-/

namespace ConferenceFocus

structure PayloadType where
  id : Nat
  name : String
  clockRate : Nat
  channels : Option Nat := none
  /-- Parameters by name, each name once and in increasing order. -/
  parameters : List (String × String) := []
  deriving DecidableEq, Repr

structure RtpDescription where
  media : MediaType
  payloadTypes : List PayloadType := []
  rtcpMux : Bool := false
  deriving DecidableEq, Repr

structure DtlsFingerprint where
  hash : String
  setup : Option String := none
  value : String
  deriving DecidableEq, Repr

structure IceCandidate where
  foundation : String
  component : Nat
  protocol : String
  priority : Nat
  ip : String
  port : Nat
  kind : String
  deriving DecidableEq, Repr

structure IceUdpTransport where
  ufrag : Option String := none
  pwd : Option String := none
  rtcpMux : Bool := false
  fingerprints : List DtlsFingerprint := []
  candidates : List IceCandidate := []
  deriving DecidableEq, Repr

end ConferenceFocus
