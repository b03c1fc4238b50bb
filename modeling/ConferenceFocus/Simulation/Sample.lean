import ConferenceFocus.Membership.Participant

/-!
# Sample media

Ready-made contents, streams and participants for trying the focus out: one
Opus and one VP8 codec, transports with derived credentials, and members of
one test room.
-/

namespace ConferenceFocus.Simulation.Sample

def room : String := "testroom@conference.example.com"

def owner (name : String) : String := room ++ "/" ++ name

def participant (name : String) : Participant :=
  { endpoint := ⟨name⟩, owner := owner name }

def opus : PayloadType :=
  { id := 111, name := "opus", clockRate := 48000, channels := some 2,
    parameters := [("minptime", "10")] }

def vp8 : PayloadType := { id := 100, name := "VP8", clockRate := 90000 }

def audioDescription : RtpDescription :=
  { media := .audio, payloadTypes := [opus], rtcpMux := true }

def videoDescription : RtpDescription :=
  { media := .video, payloadTypes := [vp8], rtcpMux := true }

def transport (ufrag : String) : IceUdpTransport :=
  { ufrag := some ufrag, pwd := some (ufrag ++ "-pwd"), rtcpMux := true,
    fingerprints :=
      [{ hash := "sha-256", setup := some "actpass", value := "AB:CD:EF:01:23:45:67:89" }] }

def source (ssrc : Nat) : Source := { ssrc := ⟨ssrc⟩ }

def camera (ssrc : Nat) : Source := { source ssrc with videoType := some .camera }

/-- The group of simulcast layers with these SSRCs, lowest quality first. -/
def simulcast (layers : List Nat) : SourceGroup :=
  { semantics := .simulcast, ssrcs := layers.map fun (ssrc : Nat) => ⟨ssrc⟩ }

def audioContent (ssrc : Nat) : MediaContent :=
  { media := .audio, description := some audioDescription,
    transport := some (transport "audio"), sources := [source ssrc] }

def videoContent (ssrc : Nat) : MediaContent :=
  { media := .video, description := some videoDescription,
    transport := some (transport "video"), sources := [camera ssrc] }

def simulcastVideoContent (layers : List Nat) : MediaContent :=
  { media := .video, description := some videoDescription,
    transport := some (transport "video"), sources := layers.map camera,
    groups := [simulcast layers] }

def dataContent : MediaContent :=
  { media := .data, transport := some (transport "data") }

def audioVideo (audio video : Nat) : List MediaContent :=
  [audioContent audio, videoContent video]

def fullContents (audio video : Nat) : List MediaContent :=
  audioVideo audio video ++ [dataContent]

def sourceSet (media : MediaType) (ssrcs : List Nat) : SourceSet :=
  MediaSet.ofList (ssrcs.map fun ssrc => (media, source ssrc))

def simulcastGroups (layers : List Nat) : GroupSet :=
  MediaSet.ofList [(.video, simulcast layers)]

end ConferenceFocus.Simulation.Sample
