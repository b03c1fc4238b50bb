import ConferenceFocus.Colibri.Request

/-!
# A conference as a bridge hosts it

What a simulated bridge remembers of the channels and connections of one
conference, and how the entries of a request change it.
-/

namespace ConferenceFocus.Simulation

open Colibri

structure HostedChannel where
  id : String
  media : MediaType
  endpoint : Option EndpointId := none
  direction : Option Direction := none
  sources : List Source := []
  groups : List SourceGroup := []
  deriving DecidableEq, Repr

structure HostedConnection where
  id : String
  endpoint : Option EndpointId := none
  deriving DecidableEq, Repr

structure HostedConference where
  id : ConferenceId
  channels : List HostedChannel := []
  connections : List HostedConnection := []
  deriving DecidableEq, Repr

instance : Keyed HostedChannel String := ⟨HostedChannel.id⟩

instance : Keyed HostedConnection String := ⟨HostedConnection.id⟩

instance : Keyed HostedConference ConferenceId := ⟨HostedConference.id⟩

/-- The sources of a channel after an update.  An update without sources says
nothing, one that starts with the marker clears them, any other replaces them. -/
def updatedSources (current update : List Source) : List Source :=
  match update with
  | [] => current
  | first :: _ => if first.isRemoveAll then [] else update

/-- The groups of a channel after an update.  An empty group clears the groups
with its semantics; groups that are not empty replace all there are. -/
def updatedGroups (current update : List SourceGroup) : List SourceGroup :=
  match update.filter (!·.isEmpty) with
  | [] => current.filter fun group => update.all (·.semantics ≠ group.semantics)
  | groups => groups

namespace HostedChannel

def update (hosted : HostedChannel) (channel : Channel) : HostedChannel :=
  { hosted with
    direction := channel.direction.or hosted.direction,
    sources := updatedSources hosted.sources channel.sources,
    groups := updatedGroups hosted.groups channel.groups }

end HostedChannel

namespace HostedConference

def isEmpty (hosted : HostedConference) : Bool :=
  hosted.channels.isEmpty && hosted.connections.isEmpty

def knows (hosted : HostedConference) (id : String) : Bool :=
  Keyed.holds hosted.channels id || Keyed.holds hosted.connections id

/-- Identifiers in a content that have to be known: those of all entries but
the ones that are to expire. -/
def requiredIds (content : Content) : List String :=
  ((content.channels.filter (·.expire ≠ some 0)).filterMap (·.id)) ++
    (content.connections.filter (·.expire ≠ some 0)).filterMap (·.id)

def unknownId? (hosted : HostedConference) (contents : List Content) : Option String :=
  (contents.flatMap requiredIds).find? (!hosted.knows ·)

/-- Opens, changes or expires the channel an entry names. -/
def applyChannel (media : MediaType) (hosted : HostedConference) (channel : Channel) :
    HostedConference :=
  match channel.id with
  | none => hosted
  | some id =>
      if channel.expire = some 0 then
        { hosted with channels := Keyed.erase hosted.channels id }
      else
        let opened : List HostedChannel :=
          Keyed.append hosted.channels { id, media, endpoint := channel.endpoint }
        { hosted with channels := Keyed.adjust opened id (·.update channel) }

/-- Opens or expires the connection an entry names. -/
def applyConnection (hosted : HostedConference) (connection : SctpConnection) :
    HostedConference :=
  match connection.id with
  | none => hosted
  | some id =>
      if connection.expire = some 0 then
        { hosted with connections := Keyed.erase hosted.connections id }
      else
        { hosted with
          connections :=
            Keyed.append hosted.connections { id, endpoint := connection.endpoint } }

def applyContent (hosted : HostedConference) (content : Content) : HostedConference :=
  content.connections.foldl applyConnection
    (content.channels.foldl (applyChannel content.media) hosted)

/-- Carries out a request all of whose entries are named. -/
def apply (hosted : HostedConference) (contents : List Content) : HostedConference :=
  contents.foldl applyContent hosted

end HostedConference

end ConferenceFocus.Simulation
