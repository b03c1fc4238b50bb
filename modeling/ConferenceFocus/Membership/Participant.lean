import ConferenceFocus.Colibri.Conference
import ConferenceFocus.Media.Streams
import ConferenceFocus.Membership.Feature

/-!
# Participants

What the focus knows of one member of a conference: its session, its channels
on the bridge, the streams it has announced, and the streams of other members
that wait to be signaled to it.

The streams that wait are kept in two queues, those to add and those to
remove.  Nothing is in both: to schedule what waits in the other queue takes
it out there instead, so that an add and a remove of the same thing cancel.
-/

namespace ConferenceFocus

/-- Streams come, or they go. -/
inductive ChangeKind where
  | add
  | remove
  deriving DecidableEq, Repr

structure Participant where
  endpoint : EndpointId
  /-- The member's full address, stamped on its sources. -/
  owner : String
  session : Option SessionHandle := none
  channels : Option Colibri.Conference := none
  own : Streams := ∅
  /-- Streams of others that wait to be added to its session. -/
  pendingAdd : Streams := ∅
  /-- Streams of others that wait to be removed from its session. -/
  pendingRemove : Streams := ∅
  features : List Feature := []
  muted : Bool := false
  held : Bool := false
  displayName : Option String := none
  externalId : Option String := none
  deriving DecidableEq, Repr

namespace Participant

def hasSession (member : Participant) : Bool := member.session.isSome

def supports (member : Participant) (feature : Feature) : Bool :=
  member.features.contains feature

/-- Bundling takes both multiplexing of RTCP and bundling of media. -/
def supportsBundle (member : Participant) : Bool :=
  member.supports .rtcpMux && member.supports .rtpBundle

section OwnStreams

/-- Takes in what an accepted answer announces, stamped with the member as
owner, and returns what of it is new. -/
def importAnswer (member : Participant) (contents : List MediaContent) :
    Streams × Participant :=
  let news := ((Streams.ofContents contents).withOwner member.owner).diff member.own
  (news, { member with own := member.own.union news })

/-- Takes in streams announced later, stamped with the member as owner. -/
def addStreams (member : Participant) (streams : Streams) : Participant :=
  { member with own := member.own.union (streams.withOwner member.owner) }

/-- Drops sources, and with them the groups that are left with an SSRC the
member no longer has, which are returned. -/
def removeSources (member : Participant) (sources : SourceSet) : GroupSet × Participant :=
  let kept := { member.own with sources := member.own.sources.diff sources }
  let orphaned := kept.orphans
  (orphaned, { member with own := { kept with groups := kept.groups.diff orphaned } })

def removeGroups (member : Participant) (groups : GroupSet) : Participant :=
  { member with own := { member.own with groups := member.own.groups.diff groups } }

/-- Drops what the member has of the given streams, and returns all that is
gone: its own records, and behind the named groups those left without a source. -/
def withdraw (member : Participant) (streams : Streams) : Streams × Participant :=
  let owned := member.own.inter streams
  let (orphaned, member) := (member.removeGroups owned.groups).removeSources owned.sources
  ({ owned with groups := owned.groups.union orphaned }, member)

end OwnStreams

section Queues

def pending (member : Participant) : ChangeKind → Streams
  | .add => member.pendingAdd
  | .remove => member.pendingRemove

/-- Queues streams to be added; those that wait to be removed cancel out. -/
def scheduleAdd (member : Participant) (streams : Streams) : Participant :=
  let cancelled := member.pendingRemove.inter streams
  { member with
    pendingRemove := member.pendingRemove.diff cancelled,
    pendingAdd := member.pendingAdd.union (streams.diff cancelled) }

/-- Queues streams to be removed; those that wait to be added cancel out. -/
def scheduleRemove (member : Participant) (streams : Streams) : Participant :=
  let cancelled := member.pendingAdd.inter streams
  { member with
    pendingAdd := member.pendingAdd.diff cancelled,
    pendingRemove := member.pendingRemove.union (streams.diff cancelled) }

def schedule (member : Participant) : ChangeKind → Streams → Participant
  | .add, streams => member.scheduleAdd streams
  | .remove, streams => member.scheduleRemove streams

def clearPending (member : Participant) : ChangeKind → Participant
  | .add => { member with pendingAdd := ∅ }
  | .remove => { member with pendingRemove := ∅ }

/-- Empties a queue and returns what was in it, if anything was. -/
def takePending (member : Participant) (kind : ChangeKind) : Option Streams × Participant :=
  if (member.pending kind).isEmpty then (none, member)
  else (some (member.pending kind), member.clearPending kind)

end Queues

def setFeatures (member : Participant) (uris : List String) : Participant :=
  { member with features := Feature.ofUris uris }

end Participant

end ConferenceFocus
