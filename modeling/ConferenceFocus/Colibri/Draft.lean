import ConferenceFocus.Colibri.Intent

/-!
# Requests under construction

A draft collects intents and becomes one request, unless none of them had
anything to ask for.  Every kind of intent has a loop of its own, which puts in
what is asked for and says at the end whether that was anything; the draft
remembers it by a flag beside the conference it builds.  Entries of one medium
are gathered in one content, in the order in which they were added.
-/

namespace ConferenceFocus.Colibri

structure Draft where
  settings : Settings
  conference : Conference := {}
  /-- Whether an intent has said that it asked for something. -/
  hasContent : Bool := false
  deriving DecidableEq, Repr

namespace Draft

def about (settings : Settings) (id : Option ConferenceId) (name : Option String) : Draft :=
  { settings, conference := { id, name } }

def withName (draft : Draft) (name : Option String) : Draft :=
  { draft with conference := { draft.conference with name } }

def putChannel (draft : Draft) (media : MediaType) (channel : Channel) : Draft :=
  { draft with conference := draft.conference.modify media (·.addChannel channel) }

def putConnection (draft : Draft) (media : MediaType) (connection : SctpConnection) : Draft :=
  { draft with conference := draft.conference.modify media (·.addConnection connection) }

def putBundle (draft : Draft) (bundle : ChannelBundle) : Draft :=
  { draft with
    conference := { draft.conference with bundles := draft.conference.bundles ++ [bundle] } }

section Adding

/-- Asks for an association if a content is data, and for a channel otherwise.  The bundle
of the endpoint is named once there is something to be tied to it. -/
def addAllocation (draft : Draft) (useBundle : Bool) (endpoint : EndpointId) (initiator : Bool)
    (contents : List MediaContent) : Draft × Bool := Id.run do
  let settings := draft.settings
  let bundle := if useBundle then some endpoint.text else none
  let mut draft := draft
  let mut added := false
  for content in contents do
    if content.media = .data then
      draft := draft.putConnection .data
        { endpoint := some endpoint, bundle, initiator := some initiator,
          expire := some newChannelExpire, port := some newSctpPort }
      added := true
      continue
    let mut channel : Channel :=
      { endpoint := some endpoint, bundle, initiator := some initiator,
        expire := some newChannelExpire,
        payloadTypes := (content.description.map (·.payloadTypes)).getD [],
        sources := content.sources, groups := content.groups }
    if content.media = .video then
      channel :=
        { channel with
          lastN := settings.channelLastN,
          adaptiveLastN := some settings.adaptiveLastN,
          adaptiveSimulcast := some settings.adaptiveSimulcast }
    draft := draft.putChannel content.media channel
    added := true
  if let some id := bundle.filter fun _ => added then
    if (draft.conference.bundle? id).isNone then
      draft := draft.putBundle { id }
  draft := { draft with hasContent := draft.hasContent || added }
  return (draft, added)

def addExpiry (draft : Draft) (channels : Conference) : Draft × Bool := Id.run do
  let mut draft := draft
  let mut added := false
  for content in channels.contents do
    for channel in content.channels do
      if let some id := channel.id then
        draft := draft.putChannel content.media { id := some id, expire := some 0 }
        added := true
    for connection in content.connections do
      if let some id := connection.id then
        draft := draft.putConnection content.media { id := some id, expire := some 0 }
        added := true
  draft := { draft with hasContent := draft.hasContent || added }
  return (draft, added)

def addCodecs (draft : Draft) (descriptions : MediaMap RtpDescription)
    (channels : Conference) : Draft × Bool := Id.run do
  let mut draft := draft
  let mut added := false
  for (media, description) in descriptions.toList do
    let some content := channels.content? media | continue
    for id in content.channelIds do
      draft := draft.putChannel media
        { id := some id, payloadTypes := description.payloadTypes }
      added := true
  draft := { draft with hasContent := draft.hasContent || added }
  return (draft, added)

def addTransports (draft : Draft) (initiator : Bool) (transports : MediaMap IceUdpTransport)
    (channels : Conference) : Draft × Bool := Id.run do
  let mut draft := draft
  let mut added := false
  for (media, transport) in transports.toList do
    let some content := channels.content? media | continue
    for id in content.channelIds do
      draft := draft.putChannel media
        { id := some id, initiator := some initiator, transport := some transport }
      added := true
    for id in content.connectionIds do
      draft := draft.putConnection media
        { id := some id, initiator := some initiator, transport := some transport }
      added := true
  draft := { draft with hasContent := draft.hasContent || added }
  return (draft, added)

/-- The bundle is the first that a descriptor speaks of.  It is asked for even if no
channel in it has an identifier. -/
def addBundle (draft : Draft) (initiator : Bool) (transport : IceUdpTransport)
    (channels : Conference) : Draft × Bool := Id.run do
  let mut draft := draft
  let some bundle := channels.contents.findSome? Intent.bundleOf? | return (draft, false)
  for content in channels.contents do
    for channel in content.channels do
      if channel.bundle ≠ some bundle then
        continue
      if let some id := channel.id then
        draft := draft.putChannel content.media { id := some id, initiator := some initiator }
  draft := draft.putBundle { id := bundle, transport := some transport }
  draft := { draft with hasContent := true }
  return (draft, true)

def addStreams (draft : Draft) (streams : Streams) (channels : Conference) :
    Draft × Bool := Id.run do
  let mut draft := draft
  let mut added := false
  for content in channels.contents do
    let sources := streams.sources.entriesFor content.media
    let groups := streams.groups.entriesFor content.media
    for id in content.channelIds do
      draft := draft.putChannel content.media (Intent.replacement sources groups id)
      added := true
  draft := { draft with hasContent := draft.hasContent || added }
  return (draft, added)

def addDirection (draft : Draft) (direction : Direction) (channels : Conference) :
    Draft × Bool := Id.run do
  let mut draft := draft
  let mut added := false
  for media in [MediaType.audio, MediaType.video] do
    let some content := channels.content? media | continue
    for id in content.channelIds do
      draft := draft.putChannel media { id := some id, direction := some direction }
      added := true
  draft := { draft with hasContent := draft.hasContent || added }
  return (draft, added)

/-- Adds what an intent asks for, and says whether that was anything. -/
def add (draft : Draft) : Intent → Draft × Bool
  | .allocate useBundle endpoint initiator contents =>
      draft.addAllocation useBundle endpoint initiator contents
  | .expire channels => draft.addExpiry channels
  | .updateCodecs descriptions channels => draft.addCodecs descriptions channels
  | .updateTransports initiator transports channels =>
      draft.addTransports initiator transports channels
  | .updateBundle initiator transport channels => draft.addBundle initiator transport channels
  | .replaceStreams streams channels => draft.addStreams streams channels
  | .setDirection direction channels => draft.addDirection direction channels

end Adding

/-- The finished request, unless every intent said that it asked for nothing. -/
def request? (draft : Draft) (bridge : BridgeAddress) (seq : UInt64) : Option Request :=
  if !draft.hasContent then none
  else
    let filled := draft.conference.contents.filter (!·.isEmpty)
    some { bridge, seq, conference := { draft.conference with contents := filled } }

end Draft

end ConferenceFocus.Colibri
