import Mathlib.Logic.Function.Basic
import ConferenceFocus.Membership.Roster
import ConferenceFocus.Proofs.StreamItems

/-!
# What happens to a roster, and what the peers of its members hear

A `RosterCall` is anything that can happen to a roster.  `Handled` lists what
each call that succeeds does, so that no later proof opens an operation again.
A `Signaling` sets beside the roster what the peer of each member has been
told: on joining, the streams of all others, and after that the updates
addressed to it, in their order.
-/

namespace ConferenceFocus

inductive RosterCall where
  | add (member : Participant)
  | announce (endpoint : EndpointId) (streams : Streams)
  | retract (endpoint : EndpointId) (streams : Streams)
  | remove (endpoint : EndpointId)
  | establish (endpoint : EndpointId) (session : SessionHandle)
  /-- The session of a member breaks down. -/
  | dropSession (endpoint : EndpointId)

namespace Participant

/-- Sets the session and empties the queues: what is to be added first, then
what is to be removed. -/
def flush (member : Participant) (session : SessionHandle) :
    List SourceUpdate × Participant :=
  let member := { member with session := some session }
  let (added, member) := member.takePending .add
  let (removed, member) := member.takePending .remove
  ((added.bind (member.update? .add)).toList ++
    (removed.bind (member.update? .remove)).toList, member)

/-- A member as a change made by `origin` leaves it behind. -/
def reached (member : Participant) (origin : EndpointId) (kind : ChangeKind)
    (streams : Streams) : Participant :=
  if member.endpoint = origin ∨ streams.isEmpty then member else member.park kind streams

end Participant

namespace Roster

def dropSession (roster : Roster) (endpoint : EndpointId) : Except RosterError Roster := do
  let member ← roster.get endpoint
  return roster.replace { member with session := none }

def without (roster : Roster) (endpoint : EndpointId) : Roster :=
  ⟨roster.members.filter (·.endpoint ≠ endpoint)⟩

def handle (roster : Roster) : RosterCall → Except RosterError (List SourceUpdate × Roster)
  | .add member => (roster.add member).map ([], ·)
  | .announce endpoint streams => roster.announce endpoint streams
  | .retract endpoint streams => roster.retract endpoint streams
  | .remove endpoint => (roster.remove endpoint).map (·.2)
  | .establish endpoint session => roster.establish endpoint session
  | .dropSession endpoint => (roster.dropSession endpoint).map ([], ·)

/-- What a call that succeeds returns and leaves behind. -/
inductive Handled (roster : Roster) : RosterCall → List SourceUpdate × Roster → Prop where
  | add (member : Participant)
      (free : ∀ other ∈ roster.members, other.endpoint ≠ member.endpoint) :
      Handled roster (.add member) ([], ⟨roster.members ++ [member]⟩)
  | announce (member : Participant) (present : member ∈ roster.members) (streams : Streams) :
      Handled roster (.announce member.endpoint streams)
        ((roster.replace (member.addStreams (streams.withOwner member.owner))).route
          member.endpoint .add (streams.withOwner member.owner))
  | retract (member : Participant) (present : member ∈ roster.members) (streams : Streams) :
      Handled roster (.retract member.endpoint streams)
        ((roster.replace (member.withdraw streams).2).route
          member.endpoint .remove (member.withdraw streams).1)
  | remove (member : Participant) (present : member ∈ roster.members) :
      Handled roster (.remove member.endpoint)
        ((roster.without member.endpoint).route member.endpoint .remove member.own)
  | establish (member : Participant) (present : member ∈ roster.members)
      (session : SessionHandle) :
      Handled roster (.establish member.endpoint session)
        ((member.flush session).1, roster.replace (member.flush session).2)
  | dropSession (member : Participant) (present : member ∈ roster.members) :
      Handled roster (.dropSession member.endpoint)
        ([], roster.replace { member with session := none })

theorem get_eq_ok {roster : Roster} {endpoint : EndpointId} {member : Participant}
    (found : roster.get endpoint = .ok member) :
    member ∈ roster.members ∧ member.endpoint = endpoint := by
  unfold get at found
  cases lookup : roster.find? endpoint with
  | none => simp [lookup] at found
  | some other =>
      simp only [lookup, Except.ok.injEq] at found
      subst found
      exact ⟨List.mem_of_find?_eq_some lookup, by simpa using List.find?_some lookup⟩

private theorem exceptMap_eq_ok {ε α β : Type} {function : α → β} {source : Except ε α}
    {result : β} (success : source.map function = .ok result) :
    ∃ value, source = .ok value ∧ function value = result := by
  cases source with
  | error cause => cases success
  | ok value => exact ⟨value, rfl, Except.ok.inj success⟩

theorem get_bind_eq_ok {α : Type} {roster : Roster} {endpoint : EndpointId}
    {proceed : Participant → Except RosterError α} {result : α}
    (success : (roster.get endpoint >>= proceed) = .ok result) :
    ∃ member ∈ roster.members, member.endpoint = endpoint ∧ proceed member = .ok result := by
  cases found : roster.get endpoint with
  | error cause => simp [found, bind, Except.bind] at success
  | ok member =>
      obtain ⟨present, named⟩ := get_eq_ok found
      exact ⟨member, present, named, by simpa [found, bind, Except.bind] using success⟩

theorem handled_of_handle {roster : Roster} {call : RosterCall}
    {result : List SourceUpdate × Roster} (success : roster.handle call = .ok result) :
    Handled roster call result := by
  cases call with
  | add member =>
      obtain ⟨next, addition, rfl⟩ := exceptMap_eq_ok success
      unfold add at addition
      cases lookup : roster.find? member.endpoint with
      | some other => simp [lookup] at addition
      | none =>
          simp only [lookup, Except.ok.injEq] at addition
          subst addition
          exact .add member (by simpa [find?] using lookup)
  | announce endpoint streams =>
      obtain ⟨member, present, rfl, outcome⟩ := get_bind_eq_ok success
      cases outcome
      exact .announce member present streams
  | retract endpoint streams =>
      obtain ⟨member, present, rfl, outcome⟩ := get_bind_eq_ok success
      cases outcome
      exact .retract member present streams
  | remove endpoint =>
      obtain ⟨removed, removal, rfl⟩ := exceptMap_eq_ok success
      obtain ⟨member, present, rfl, outcome⟩ := get_bind_eq_ok removal
      cases outcome
      exact .remove member present
  | establish endpoint session =>
      obtain ⟨member, present, rfl, outcome⟩ := get_bind_eq_ok success
      cases outcome
      exact .establish member present session
  | dropSession endpoint =>
      obtain ⟨next, drop, rfl⟩ := exceptMap_eq_ok success
      obtain ⟨member, present, rfl, outcome⟩ := get_bind_eq_ok drop
      cases outcome
      exact .dropSession member present

end Roster

end ConferenceFocus
