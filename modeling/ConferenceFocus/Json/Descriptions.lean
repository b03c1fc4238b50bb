import ConferenceFocus.Colibri.Request
import ConferenceFocus.Json.Names
import ConferenceFocus.Media.Streams

/-!
# JSON forms of descriptions

Media contents, source and group sets, and conference descriptions with all
they are made of.  A set is read from a list of media types paired with
sources or groups, and written as an object with a list for each media type.
-/

namespace ConferenceFocus.Json

open Colibri (Channel ChannelBundle Conference Content Direction ErrorCondition Request
  SctpConnection)

section Names

/-- One of several values that are told apart by name. -/
def oneOf {α : Type} (values : List α) (name : α → String) (text : String) : Except String α :=
  match values.find? (name · == text) with
  | some value => .ok value
  | none => expected (", ".intercalate (values.map name))

instance : Write VideoType := writeAs (·.name)
instance : Read VideoType := readAs (oneOf [.camera, .screen] (·.name))

instance : Write GroupSemantics := writeAs (·.name)
instance : Read GroupSemantics := readAs (oneOf [.simulcast, .flowIdentification] (·.name))

instance : Write Direction := writeAs (·.name)
instance : Read Direction := readAs (oneOf Direction.all (·.name))

end Names

section Sources

instance : Write Ssrc := writeAs (·.number)
instance : Read Ssrc := readAs (.ok ⟨·⟩)

instance : Record Source where
  fields := Fields.of Source.mk
    |>.and "ssrc" (·.ssrc)
    |>.and "owner" (·.owner)
    |>.and "video_type" (·.videoType)
    |>.and "params" (·.parameters)

/-- A source may also be given by its number, the marker for no sources at all
by its name. -/
instance : Read Source where
  read
    | .string (some "remove_all") => .ok .removeAll
    | .number numeral => return { ssrc := ← read (.number numeral) }
    | value => Record.fields.read value
  absent := expected "a source"

instance : Record SourceGroup where
  fields := Fields.of SourceGroup.mk
    |>.and "semantics" (·.semantics)
    |>.both "ssrcs" (·.ssrcs) (some <| list ·) (field · "ssrcs")

/-- The marker for no simulcast layers may also be given by its name. -/
instance : Read SourceGroup where
  read
    | .string (some "empty_simulcast") => .ok .emptySimulcast
    | value => Record.fields.read value
  absent := expected "a group"

end Sources

section Sets

variable {α κ : Type} [DecidableEq κ] [Keyed α κ]

instance [Write α] : Write (MediaSet α) := writeAs fun set =>
  Value.record (MediaType.all.map fun media => (media.name, form? (set.entriesFor media)))

instance [Read α] : Read (MediaSet α) :=
  readAs fun entries : List (MediaType × α) => .ok (MediaSet.ofList entries)

instance : Record Streams where
  fields := Fields.of Streams.mk
    |>.and "sources" (·.sources)
    |>.and "groups" (·.groups)

end Sets

section Rtp

/-- Reads an object whose members all hold texts, in the order of their names. -/
def texts (object : Value) : Except String (List (String × String)) :=
  (object.members.mergeSort (·.1 ≤ ·.1)).mapM fun (name, value) => return (name, ← read value)

/-- Writes named texts as an object; no texts at all are left out. -/
def textsForm? (texts : List (String × String)) : Option Value :=
  if texts.isEmpty then none
  else some (.record (texts.map fun (name, text) => (name, form? text)))

instance : Record PayloadType where
  fields := Fields.of PayloadType.mk
    |>.and "id" (·.id)
    |>.and "name" (·.name)
    |>.and "clock_rate" (·.clockRate)
    |>.and "channels" (·.channels)
    |>.both "parameters" (·.parameters) textsForm?
      fun object => do texts (← field object "parameters")

instance : Record RtpDescription where
  fields := Fields.of RtpDescription.mk
    |>.and "media" (·.media)
    |>.and "payload_types" (·.payloadTypes)
    |>.and "rtcp_mux" (·.rtcpMux)

instance : Record DtlsFingerprint where
  fields := Fields.of DtlsFingerprint.mk
    |>.and "hash" (·.hash)
    |>.and "setup" (·.setup)
    |>.and "value" (·.value)

instance : Record IceCandidate where
  fields := Fields.of IceCandidate.mk
    |>.and "foundation" (·.foundation)
    |>.and "component" (·.component)
    |>.and "protocol" (·.protocol)
    |>.and "priority" (·.priority)
    |>.and "ip" (·.ip)
    |>.and "port" (·.port)
    |>.and "kind" (·.kind)

instance : Record IceUdpTransport where
  fields := Fields.of IceUdpTransport.mk
    |>.and "ufrag" (·.ufrag)
    |>.and "pwd" (·.pwd)
    |>.and "rtcp_mux" (·.rtcpMux)
    |>.and "fingerprints" (·.fingerprints)
    |>.and "candidates" (·.candidates)

end Rtp

section Contents

instance : Record MediaContent where
  fields := Fields.of (fun media name => MediaContent.mk media (name.getD media.name))
    |>.and "media" (·.media)
    |>.and "name" (some ·.name)
    |>.and "description" (·.description)
    |>.and "transport" (·.transport)
    |>.and "sources" (·.sources)
    |>.and "groups" (·.groups)

/-- A content that says nothing more may also be given by its media type. -/
instance : Read MediaContent where
  read
    | .string text => return { media := ← read (.string text) }
    | value => Record.fields.read value
  absent := expected "a content"

end Contents

section Conferences

instance : Record Channel where
  fields := Fields.of Channel.mk
    |>.and "id" (·.id)
    |>.and "endpoint" (·.endpoint)
    |>.and "bundle" (·.bundle)
    |>.and "initiator" (·.initiator)
    |>.and "expire" (·.expire)
    |>.and "direction" (·.direction)
    |>.and "last_n" (·.lastN)
    |>.and "adaptive_last_n" (·.adaptiveLastN)
    |>.and "adaptive_simulcast" (·.adaptiveSimulcast)
    |>.and "payload_types" (·.payloadTypes)
    |>.and "transport" (·.transport)
    |>.and "sources" (·.sources)
    |>.and "groups" (·.groups)

instance : Record SctpConnection where
  fields := Fields.of SctpConnection.mk
    |>.and "id" (·.id)
    |>.and "endpoint" (·.endpoint)
    |>.and "bundle" (·.bundle)
    |>.and "initiator" (·.initiator)
    |>.and "expire" (·.expire)
    |>.and "port" (·.port)
    |>.and "transport" (·.transport)

instance : Record Content where
  fields := Fields.of Content.mk
    |>.and "media" (·.media)
    |>.and "channels" (·.channels)
    |>.and "sctp" (·.connections)

instance : Record ChannelBundle where
  fields := Fields.of ChannelBundle.mk
    |>.and "id" (·.id)
    |>.and "transport" (·.transport)

instance : Record Conference where
  fields := Fields.of Conference.mk
    |>.and "id" (·.id)
    |>.and "name" (·.name)
    |>.and "contents" (·.contents)
    |>.and "bundles" (·.bundles)

instance : Record Request where
  fields := Fields.of Request.mk
    |>.and "to" (·.bridge)
    |>.and "seq" (·.seq)
    |>.and "conference" (·.conference)

instance : Record ErrorCondition where
  fields := Fields.of ErrorCondition.mk
    |>.and "condition" (·.condition)
    |>.and "text" (·.text)

end Conferences

end ConferenceFocus.Json
