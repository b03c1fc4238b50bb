import ConferenceFocus.Control.Exchange
import ConferenceFocus.Simulation.HostedConference

/-!
# A bridge held in memory

Answers requests the way a bridge does: it names what is to be allocated,
keeps the sources and groups of each channel, and drops a conference once its
last channel and connection have expired.

Names come from a supply, a sequence of texts; a bridge remembers how many it
has used.  Statements about a bridge ask of the supply only that its texts
differ.
-/

namespace ConferenceFocus.Simulation

open Colibri Control

structure SimulatedBridge where
  /-- In the order in which they were opened. -/
  conferences : List HostedConference := []
  received : List Request := []
  offline : Bool := false
  /-- How many names of the supply have been used. -/
  minted : Nat := 0
  deriving DecidableEq, Repr

section Naming

variable (supply : Nat → String)

def nameChannels (used : Nat) : List Channel → List Channel × Nat
  | [] => ([], used)
  | channel :: rest =>
      let next := if channel.id.isNone then used + 1 else used
      let (named, last) := nameChannels next rest
      ({ channel with id := channel.id.or (some (supply used)) } :: named, last)

def nameConnections (used : Nat) : List SctpConnection → List SctpConnection × Nat
  | [] => ([], used)
  | connection :: rest =>
      let next := if connection.id.isNone then used + 1 else used
      let (named, last) := nameConnections next rest
      ({ connection with id := connection.id.or (some (supply used)) } :: named, last)

/-- Names what has no identifier: in each content the channels, then the connections. -/
def nameContents (used : Nat) : List Content → List Content × Nat
  | [] => ([], used)
  | content :: rest =>
      let (channels, afterChannels) := nameChannels supply used content.channels
      let (connections, afterConnections) :=
        nameConnections supply afterChannels content.connections
      let (named, last) := nameContents afterConnections rest
      ({ content with channels, connections } :: named, last)

end Naming

namespace SimulatedBridge

def address : BridgeAddress := ⟨"jvb.example.com"⟩

def outage : Failure := .notSent "fake bridge is offline"

def notFound (what : String) : Reply :=
  .error { condition := "item-not-found", text := some (what ++ " not found") }

def conference? (bridge : SimulatedBridge) (id : ConferenceId) : Option HostedConference :=
  Keyed.find? bridge.conferences id

/-- The conference a request is about; one that names none opens a new one. -/
def locate (supply : Nat → String) (bridge : SimulatedBridge) (request : Request) :
    ConferenceId × SimulatedBridge :=
  match request.conference.id with
  | some id => (id, bridge)
  | none =>
      let id : ConferenceId := ⟨supply bridge.minted⟩
      (id,
        { bridge with
          conferences := Keyed.append bridge.conferences { id },
          minted := bridge.minted + 1 })

/-- Puts a conference back after a change, or drops it when it has become empty. -/
def store (bridge : SimulatedBridge) (hosted : HostedConference) : SimulatedBridge :=
  { bridge with
    conferences :=
      if hosted.isEmpty then Keyed.erase bridge.conferences hosted.id
      else Keyed.adjust bridge.conferences hosted.id fun _ => hosted }

/-- Answers one request.  Entries are carried out only once all identifiers in
the request have been found. -/
def process (supply : Nat → String) (request : Request) (bridge : SimulatedBridge) :
    Reply × SimulatedBridge :=
  let bridge := { bridge with received := bridge.received ++ [request] }
  let (id, bridge) := bridge.locate supply request
  match bridge.conference? id with
  | none => (notFound s!"conference {id}", bridge)
  | some hosted =>
      match hosted.unknownId? request.conference.contents with
      | some unknown => (notFound s!"channel {unknown}", bridge)
      | none =>
          let (contents, minted) :=
            nameContents supply bridge.minted request.conference.contents
          (.conference { request.conference with id := some id, contents },
            { bridge with minted }.store (hosted.apply contents))

def ask (supply : Nat → String) (request : Request) (bridge : SimulatedBridge) :
    Delivery × SimulatedBridge :=
  if bridge.offline then (.refused outage, bridge)
  else
    let (reply, bridge) := bridge.process supply request
    (.answered reply, bridge)

/-- A request whose reply nobody waits for. -/
def post (supply : Nat → String) (request : Request) (bridge : SimulatedBridge) :
    Option Failure × SimulatedBridge :=
  if bridge.offline then (some outage, bridge)
  else (none, (bridge.process supply request).2)

def link (supply : Nat → String) : Link SimulatedBridge :=
  { ask := ask supply, post := post supply }

def channelCount (bridge : SimulatedBridge) : Nat :=
  (bridge.conferences.flatMap (·.channels)).length

def connectionCount (bridge : SimulatedBridge) : Nat :=
  (bridge.conferences.flatMap (·.connections)).length

def channel? (bridge : SimulatedBridge) (id : String) :
    Option (ConferenceId × HostedChannel) :=
  bridge.conferences.findSome? fun hosted =>
    (Keyed.find? hosted.channels id).map (hosted.id, ·)

def channelsOf (bridge : SimulatedBridge) (endpoint : EndpointId) (media : MediaType) :
    List HostedChannel :=
  (bridge.conferences.flatMap (·.channels)).filter fun channel =>
    channel.media = media ∧ channel.endpoint = some endpoint

def ssrcsOf (bridge : SimulatedBridge) (endpoint : EndpointId) (media : MediaType) :
    List Ssrc :=
  (bridge.channelsOf endpoint media).flatMap fun channel => channel.sources.map (·.ssrc)

/-- The simulcast layers of an endpoint's video; none when simulcast is off. -/
def simulcastLayers (bridge : SimulatedBridge) (endpoint : EndpointId) : List Ssrc :=
  let groups := (bridge.channelsOf endpoint .video).flatMap (·.groups)
  ((groups.find? (·.semantics = .simulcast)).map (·.ssrcs)).getD []

end SimulatedBridge

end ConferenceFocus.Simulation
