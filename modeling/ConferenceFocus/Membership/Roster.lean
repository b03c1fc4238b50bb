import ConferenceFocus.Membership.Participant

/-!
# The roster of a conference

Members in the order in which they joined.  A change to the streams of one
member is made known to all others: a member with a session is sent an update
at once, for any other the change waits in its queues until its session is
established.
-/

namespace ConferenceFocus

inductive RosterError where
  | alreadyPresent (endpoint : EndpointId)
  | notPresent (endpoint : EndpointId)
  deriving DecidableEq, Repr

namespace RosterError

def message : RosterError → String
  | alreadyPresent endpoint => "Participant already exists: " ++ endpoint.text
  | notPresent endpoint => "Participant not found: " ++ endpoint.text

end RosterError

/-- A change to be signaled to one member. -/
structure SourceUpdate where
  target : EndpointId
  session : SessionHandle
  kind : ChangeKind
  streams : Streams
  deriving DecidableEq, Repr

namespace Participant

/-- The update that tells a member of a change, if it has a session. -/
def update? (member : Participant) (kind : ChangeKind) (streams : Streams) :
    Option SourceUpdate :=
  member.session.map fun session =>
    { target := member.endpoint, session, kind, streams }

/-- What a change leaves behind with a member: nothing when it can be told at
once, otherwise an entry in its queues. -/
def park (member : Participant) (kind : ChangeKind) (streams : Streams) : Participant :=
  if member.hasSession then member else member.schedule kind streams

end Participant

structure Roster where
  members : List Participant := []
  deriving DecidableEq, Repr

namespace Roster

def find? (roster : Roster) (endpoint : EndpointId) : Option Participant :=
  roster.members.find? (·.endpoint = endpoint)

def get (roster : Roster) (endpoint : EndpointId) : Except RosterError Participant :=
  match roster.find? endpoint with
  | some member => .ok member
  | none => .error (.notPresent endpoint)

def size (roster : Roster) : Nat := roster.members.length

def replace (roster : Roster) (member : Participant) : Roster :=
  ⟨roster.members.map fun other => if other.endpoint = member.endpoint then member else other⟩

/-- Adds a member at the end, if its name is free. -/
def add (roster : Roster) (member : Participant) : Except RosterError Roster :=
  match roster.find? member.endpoint with
  | some _ => .error (.alreadyPresent member.endpoint)
  | none => .ok ⟨roster.members ++ [member]⟩

/-- Tells everybody but `origin` of a change; a change of nothing is not told. -/
def route (roster : Roster) (origin : EndpointId) (kind : ChangeKind) (streams : Streams) :
    List SourceUpdate × Roster :=
  if streams.isEmpty then ([], roster)
  else
    ((roster.members.filter (·.endpoint ≠ origin)).filterMap (·.update? kind streams),
      ⟨roster.members.map fun member =>
        if member.endpoint = origin then member else member.park kind streams⟩)

/-- Removes a member and withdraws its streams from everybody else. -/
def remove (roster : Roster) (endpoint : EndpointId) :
    Except RosterError (Participant × List SourceUpdate × Roster) := do
  let member ← roster.get endpoint
  let rest : Roster := ⟨roster.members.filter (·.endpoint ≠ endpoint)⟩
  return (member, rest.route endpoint .remove member.own)

/-- Records streams that a member announces, as its own, and tells the others.
All that was announced is told, whether or not it is new. -/
def announce (roster : Roster) (endpoint : EndpointId) (streams : Streams) :
    Except RosterError (List SourceUpdate × Roster) := do
  let member ← roster.get endpoint
  let stamped := streams.withOwner member.owner
  return (roster.replace (member.addStreams stamped)).route endpoint .add stamped

/-- Drops streams of a member and tells the others of what is gone.  What the
member does not have is passed over. -/
def retract (roster : Roster) (endpoint : EndpointId) (streams : Streams) :
    Except RosterError (List SourceUpdate × Roster) := do
  let member ← roster.get endpoint
  let (gone, member) := member.withdraw streams
  return (roster.replace member).route endpoint .remove gone

/-- Sets a member's session and flushes its queues: what is to be added first,
then what is to be removed. -/
def establish (roster : Roster) (endpoint : EndpointId) (session : SessionHandle) :
    Except RosterError (List SourceUpdate × Roster) := do
  let member ← roster.get endpoint
  let member := { member with session := some session }
  let (added, member) := member.takePending .add
  let (removed, member) := member.takePending .remove
  return (((added.bind (member.update? .add)).toList ++
      (removed.bind (member.update? .remove)).toList), roster.replace member)

def streamsExcept (roster : Roster) (endpoint : EndpointId) : Streams :=
  ((roster.members.filter (·.endpoint ≠ endpoint)).map (·.own)).foldl Streams.union ∅

end Roster

end ConferenceFocus
