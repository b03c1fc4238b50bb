import ConferenceFocus.Media.Rtp
import ConferenceFocus.Media.Source

/-!
# Media contents of a session description

What an offer or answer of one participant says about one medium.  The focus
only reads contents; producing them is the business of signaling.
-/

namespace ConferenceFocus

structure MediaContent where
  media : MediaType
  /-- The negotiated name, by default the name of the medium. -/
  name : String := media.name
  description : Option RtpDescription := none
  transport : Option IceUdpTransport := none
  sources : List Source := []
  groups : List SourceGroup := []
  deriving DecidableEq, Repr

end ConferenceFocus
