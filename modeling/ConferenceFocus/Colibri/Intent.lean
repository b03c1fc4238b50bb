import ConferenceFocus.Colibri.Request
import ConferenceFocus.Media.Streams

/-!
# What a request asks for

An intent is one thing the focus wants of a bridge.  `Intent.entries` spells
it out as the entries it asks a request to hold, in order; an intent without
entries asks for nothing.  Apart from an allocation, an intent names channels
of a descriptor by identifier, and what has no identifier is passed over.
How a request is put together is another matter; `Conference.place` says what
it comes to for one entry.
-/

namespace ConferenceFocus.Colibri

/-- One thing put into a request. -/
inductive Entry where
  | channel (media : MediaType) (channel : Channel)
  | connection (media : MediaType) (connection : SctpConnection)
  | bundle (bundle : ChannelBundle)
  /-- A bundle that is only named, and only if the request lacks it. -/
  | bundleName (id : String)
  deriving DecidableEq, Repr

inductive Intent where
  /-- New channels for an endpoint, one for each content. -/
  | allocate (useBundle : Bool) (endpoint : EndpointId) (initiator : Bool)
      (contents : List MediaContent)
  /-- The end of every channel and connection of a descriptor. -/
  | expire (channels : Conference)
  /-- New codecs for the channels of a descriptor. -/
  | updateCodecs (descriptions : MediaMap RtpDescription) (channels : Conference)
  /-- New transports for the channels and connections of a descriptor. -/
  | updateTransports (initiator : Bool) (transports : MediaMap IceUdpTransport)
      (channels : Conference)
  /-- A new transport for the bundle of a descriptor. -/
  | updateBundle (initiator : Bool) (transport : IceUdpTransport) (channels : Conference)
  /-- New sources and groups in place of all that the channels of a descriptor have. -/
  | replaceStreams (streams : Streams) (channels : Conference)
  /-- A new direction for the audio and video channels of a descriptor. -/
  | setDirection (direction : Direction) (channels : Conference)

/-- Seconds a new channel may stay silent. -/
def newChannelExpire : Nat := 15

def newSctpPort : Nat := 5000

namespace Intent

/-- What one content asks for: an association for data, a channel otherwise. -/
def allocation (settings : Settings) (bundle : Option String) (endpoint : EndpointId)
    (initiator : Bool) (content : MediaContent) : Entry :=
  match content.media with
  | .data =>
      .connection .data
        { endpoint := some endpoint, bundle, initiator := some initiator,
          expire := some newChannelExpire, port := some newSctpPort }
  | media =>
      let isVideo := media == .video
      .channel media
        { endpoint := some endpoint, bundle, initiator := some initiator,
          expire := some newChannelExpire,
          payloadTypes := (content.description.map (·.payloadTypes)).getD [],
          sources := content.sources, groups := content.groups,
          lastN := if isVideo then settings.channelLastN else none,
          adaptiveLastN := if isVideo then some settings.adaptiveLastN else none,
          adaptiveSimulcast := if isVideo then some settings.adaptiveSimulcast else none }

def expiry (content : Content) : List Entry :=
  (content.channelIds.map fun id =>
      .channel content.media { id := some id, expire := some 0 }) ++
    content.connectionIds.map fun id =>
      .connection content.media { id := some id, expire := some 0 }

/-- The first bundle that a channel, or else a connection, of a content is in. -/
def bundleOf? (content : Content) : Option String :=
  (content.channels.findSome? (·.bundle)).or (content.connections.findSome? (·.bundle))

/-- What a channel is told that has exactly these sources and groups: nothing of
a kind is said by the marker for it, so that the bridge does not keep what it had. -/
def replacement (sources : List Source) (groups : List SourceGroup) (id : String) : Channel :=
  { id := some id,
    sources := if sources.isEmpty then [.removeAll] else sources,
    groups := if groups.isEmpty then [.emptySimulcast] else groups }

/-- Entries for the first content of each medium that has a value in a table. -/
def perMedium {α : Type} (table : MediaMap α) (channels : Conference)
    (entries : MediaType → α → Content → List Entry) : List Entry :=
  table.toList.flatMap fun (media, value) =>
    ((channels.content? media).map (entries media value)).getD []

def entries (settings : Settings) : Intent → List Entry
  | allocate useBundle endpoint initiator contents =>
      let bundle := if useBundle then some endpoint.text else none
      contents.map (allocation settings bundle endpoint initiator) ++
        if contents.isEmpty then [] else (bundle.map Entry.bundleName).toList
  | expire channels => channels.contents.flatMap expiry
  | updateCodecs descriptions channels =>
      perMedium descriptions channels fun media description content =>
        content.channelIds.map fun id =>
          .channel media { id := some id, payloadTypes := description.payloadTypes }
  | updateTransports initiator transports channels =>
      perMedium transports channels fun media transport content =>
        (content.channelIds.map fun id =>
            .channel media
              { id := some id, initiator := some initiator, transport := some transport }) ++
          content.connectionIds.map fun id =>
            .connection media
              { id := some id, initiator := some initiator, transport := some transport }
  | updateBundle initiator transport channels =>
      match channels.contents.findSome? bundleOf? with
      | none => []
      | some bundle =>
          (channels.contents.flatMap fun content =>
            (content.channels.filter (·.bundle = some bundle)).filterMap fun channel =>
              channel.id.map fun id =>
                .channel content.media { id := some id, initiator := some initiator }) ++
            [.bundle { id := bundle, transport := some transport }]
  | replaceStreams streams channels =>
      channels.contents.flatMap fun content =>
        content.channelIds.map fun id =>
          .channel content.media
            (replacement (streams.sources.entriesFor content.media)
              (streams.groups.entriesFor content.media) id)
  | setDirection direction channels =>
      [MediaType.audio, MediaType.video].flatMap fun media =>
        ((channels.content? media).map fun content =>
          content.channelIds.map fun id =>
            .channel media { id := some id, direction := some direction }).getD []

end Intent

/-- Puts an entry where the conference gathers its kind. -/
def Conference.place (conference : Conference) : Entry → Conference
  | .channel media channel => conference.modify media (·.addChannel channel)
  | .connection media connection => conference.modify media (·.addConnection connection)
  | .bundle bundle => { conference with bundles := conference.bundles ++ [bundle] }
  | .bundleName id => { conference with bundles := Keyed.append conference.bundles { id } }

end ConferenceFocus.Colibri
