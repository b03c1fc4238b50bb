import ConferenceFocus.Identity
import ConferenceFocus.Keyed
import ConferenceFocus.Media.Rtp
import ConferenceFocus.Media.Source

/-!
# Colibri conferences

A `Conference` describes contents, channels and bundles.  The same type serves
as the state confirmed by a bridge, as the body of a request and as the body
of a reply.  Look-ups by medium see the first content of that medium.
-/

namespace ConferenceFocus.Colibri

/-- The direction of a channel's media, as the bridge sees it. -/
inductive Direction where
  | sendrecv
  | sendonly
  | recvonly
  | inactive
  deriving DecidableEq, Repr

namespace Direction

def all : List Direction := [.sendrecv, .sendonly, .recvonly, .inactive]

def name : Direction → String
  | sendrecv => "sendrecv"
  | sendonly => "sendonly"
  | recvonly => "recvonly"
  | inactive => "inactive"

def ofName? (text : String) : Option Direction :=
  all.find? (·.name == text)

end Direction

/-- One participant's relay of RTP media on the bridge. -/
structure Channel where
  /-- Assigned by the bridge; a channel without it asks to be allocated. -/
  id : Option String := none
  endpoint : Option EndpointId := none
  bundle : Option String := none
  initiator : Option Bool := none
  /-- Seconds of silence after which the bridge drops the channel; 0 drops it at once. -/
  expire : Option Nat := none
  direction : Option Direction := none
  lastN : Option Nat := none
  adaptiveLastN : Option Bool := none
  adaptiveSimulcast : Option Bool := none
  payloadTypes : List PayloadType := []
  transport : Option IceUdpTransport := none
  sources : List Source := []
  groups : List SourceGroup := []
  deriving DecidableEq, Repr

/-- One participant's data channel association on the bridge. -/
structure SctpConnection where
  id : Option String := none
  endpoint : Option EndpointId := none
  bundle : Option String := none
  initiator : Option Bool := none
  expire : Option Nat := none
  port : Option Nat := none
  transport : Option IceUdpTransport := none
  deriving DecidableEq, Repr

/-- The transport shared by the bundled channels of one endpoint. -/
structure ChannelBundle where
  id : String
  transport : Option IceUdpTransport := none
  deriving DecidableEq, Repr

instance : Keyed Channel (Option String) := ⟨Channel.id⟩

instance : Keyed SctpConnection (Option String) := ⟨SctpConnection.id⟩

instance : Keyed ChannelBundle String := ⟨ChannelBundle.id⟩

/-- The channels and connections of one medium. -/
structure Content where
  media : MediaType
  channels : List Channel := []
  connections : List SctpConnection := []
  deriving DecidableEq, Repr

namespace Content

def isEmpty (content : Content) : Bool :=
  content.channels.isEmpty && content.connections.isEmpty

def channel? (content : Content) (id : String) : Option Channel :=
  Keyed.find? content.channels (some id)

def connection? (content : Content) (id : String) : Option SctpConnection :=
  Keyed.find? content.connections (some id)

def channelIds (content : Content) : List String :=
  content.channels.filterMap (·.id)

def connectionIds (content : Content) : List String :=
  content.connections.filterMap (·.id)

def hasUnnamed (content : Content) : Bool :=
  content.channels.any (·.id.isNone) || content.connections.any (·.id.isNone)

def addChannel (content : Content) (channel : Channel) : Content :=
  { content with channels := content.channels ++ [channel] }

def addConnection (content : Content) (connection : SctpConnection) : Content :=
  { content with connections := content.connections ++ [connection] }

end Content

structure Conference where
  /-- Assigned by the bridge; a request without it asks for a new conference. -/
  id : Option ConferenceId := none
  name : Option String := none
  contents : List Content := []
  bundles : List ChannelBundle := []
  deriving DecidableEq, Repr

/-- Changes the first content of a medium, made at the end if there is none. -/
def modifyContent (media : MediaType) (change : Content → Content) :
    List Content → List Content
  | [] => [change { media }]
  | content :: rest =>
      if content.media = media then change content :: rest
      else content :: modifyContent media change rest

namespace Conference

instance : Inhabited Conference := ⟨{}⟩

def content? (conference : Conference) (media : MediaType) : Option Content :=
  conference.contents.find? (·.media = media)

def modify (conference : Conference) (media : MediaType) (change : Content → Content) :
    Conference :=
  { conference with contents := modifyContent media change conference.contents }

def bundle? (conference : Conference) (id : String) : Option ChannelBundle :=
  Keyed.find? conference.bundles id

def channelCount (conference : Conference) : Nat :=
  (conference.contents.flatMap (·.channels)).length

def channelCountFor (conference : Conference) (media : MediaType) : Nat :=
  ((conference.content? media).map (·.channels.length)).getD 0

/-- The number of channels with an identifier in the first content of a medium. -/
def allocatedCountFor (conference : Conference) (media : MediaType) : Nat :=
  ((conference.content? media).map (·.channelIds.length)).getD 0

/-- Whether there is nothing to say about the conference besides what it is called. -/
def isEmpty (conference : Conference) : Bool :=
  conference.contents.all (·.isEmpty) && conference.bundles.isEmpty

end Conference

end ConferenceFocus.Colibri
