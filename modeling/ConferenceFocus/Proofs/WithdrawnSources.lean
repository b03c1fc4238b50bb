import ConferenceFocus.Proofs.RosterRuns
import ConferenceFocus.Simulation.Sample

/-!
# What a member can take away from others

A member gives up only what it holds itself.  The others are told whether or not
somebody else holds the same: where two members have announced one source, either
of them can make the peers of all others drop it.
-/

namespace ConferenceFocus

/-- By the call a member gives up streams of its own, or all of them. -/
def RosterCall.IsLossOf (origin : EndpointId) : RosterCall → Prop
  | .retract endpoint _ | .remove endpoint => endpoint = origin
  | .add _ | .announce .. | .establish .. | .dropSession _ => False

/-- A removal of an item would be told to the member, or would newly wait for it. -/
def Participant.Listens (member : Participant) (item : StreamItem) : Prop :=
  member.hasSession = true ∨
    item ∉ member.pendingAdd.items ∧ item ∉ member.pendingRemove.items

instance (member : Participant) (item : StreamItem) : Decidable (member.Listens item) :=
  inferInstanceAs (Decidable (_ ∨ _))

namespace Roster

/-- A member is told to remove an item, or the removal newly waits for it. -/
def Revokes (roster : Roster) (result : List SourceUpdate × Roster) (endpoint : EndpointId)
    (item : StreamItem) : Prop :=
  (∃ update ∈ result.1, update.target = endpoint ∧ update.kind = .remove ∧
      item ∈ update.streams.items) ∨
    ∃ before ∈ roster.members, before.endpoint = endpoint ∧
      item ∉ before.pendingRemove.items ∧
      ∃ after ∈ result.2.members, after.endpoint = endpoint ∧ item ∈ after.pendingRemove.items

instance (roster : Roster) (result : List SourceUpdate × Roster) (endpoint : EndpointId)
    (item : StreamItem) : Decidable (roster.Revokes result endpoint item) :=
  inferInstanceAs (Decidable (_ ∨ _))

variable {roster base : Roster} {origin endpoint : EndpointId} {streams : Streams}
  {item : StreamItem}

theorem revised_of_loss (distinct : roster.Distinct) {call : RosterCall}
    (loss : call.IsLossOf origin) {result : List SourceUpdate × Roster}
    (handled : Handled roster call result) :
    ∃ base streams, Revised roster base origin .remove streams ∧
      result = base.route origin .remove streams := by
  cases handled with
  | retract member present streams =>
      cases loss
      exact ⟨_, _, revised_retract distinct present streams, rfl⟩
  | remove member present =>
      cases loss
      exact ⟨_, _, revised_remove distinct present, rfl⟩
  | add | announce | establish | dropSession => exact loss.elim

namespace Revised

/-- What a member gives up is what it held and holds no longer. -/
theorem mem_items_iff (revised : Revised roster base origin .remove streams) :
    item ∈ streams.items ↔
      item ∈ roster.held origin ∧ item ∉ (base.route origin .remove streams).2.held origin := by
  rw [held_route, revised.held, Function.update_self]
  constructor
  · intro gone
    exact ⟨revised.owned rfl gone, fun kept => kept.2 gone⟩
  · intro givenUp
    obtain ⟨held, lost⟩ := givenUp
    exact Classical.byContradiction fun kept => lost ⟨held, kept⟩

theorem held_of_ne (revised : Revised roster base origin .remove streams)
    (different : endpoint ≠ origin) :
    (base.route origin .remove streams).2.held endpoint = roster.held endpoint := by
  rw [held_route, revised.held, Function.update_of_ne different]

theorem told_iff (revised : Revised roster base origin .remove streams) :
    (∃ update ∈ (base.route origin .remove streams).1, update.target = endpoint ∧
        update.kind = .remove ∧ item ∈ update.streams.items) ↔
      item ∈ streams.items ∧ ∃ member ∈ roster.members, member.endpoint = endpoint ∧
        endpoint ≠ origin ∧ member.hasSession = true := by
  constructor
  · rintro ⟨update, sent, rfl, _, named⟩
    obtain ⟨_, member, present, different, told⟩ := mem_route.mp sent
    obtain ⟨session, connected, rfl⟩ := Option.map_eq_some_iff.mp told
    exact ⟨named, member, (revised.others member different).mp present, rfl, different,
      Option.isSome_iff_exists.mpr ⟨session, connected⟩⟩
  · rintro ⟨named, member, present, rfl, different, connected⟩
    obtain ⟨session, connected⟩ := Option.isSome_iff_exists.mp connected
    have told : member.update? .remove streams =
        some { target := member.endpoint, session, kind := .remove, streams } := by
      rw [Participant.update?, connected]
      rfl
    have filled : streams.isEmpty = false := by
      rw [Bool.eq_false_iff]
      intro empty
      rw [Streams.isEmpty_iff_items.mp empty] at named
      exact named
    exact ⟨_, mem_route.mpr ⟨filled, member, (revised.others member different).mpr present,
      different, told⟩, rfl, rfl, named⟩

theorem parked_iff (revised : Revised roster base origin .remove streams)
    (distinct : roster.Distinct) :
    (∃ before ∈ roster.members, before.endpoint = endpoint ∧
        item ∉ before.pendingRemove.items ∧
        ∃ after ∈ (base.route origin .remove streams).2.members, after.endpoint = endpoint ∧
          item ∈ after.pendingRemove.items) ↔
      item ∈ streams.items ∧ ∃ member ∈ roster.members, member.endpoint = endpoint ∧
        endpoint ≠ origin ∧ member.hasSession = false ∧ item ∉ member.pendingAdd.items ∧
        item ∉ member.pendingRemove.items := by
  have parked (member : Participant) (different : member.endpoint ≠ origin)
      (unconnected : member.hasSession = false) :
      item ∈ (member.reached origin .remove streams).pendingRemove.items ↔
        item ∈ member.pendingRemove.items ∨
          item ∈ streams.items ∧ item ∉ member.pendingAdd.items := by
    have queued := Participant.items_pending_reached different unconnected .remove streams .remove
    rw [Participant.items_pending_schedule] at queued
    exact Set.ext_iff.mp queued item
  constructor
  · rintro ⟨before, present, rfl, unqueued, after, afterPresent, sameName, queued⟩
    rw [members_route, List.mem_map] at afterPresent
    obtain ⟨member, memberPresent, rfl⟩ := afterPresent
    rw [endpoint_reached] at sameName
    by_cases own : member.endpoint = origin
    · obtain ⟨former, formerPresent, inbox⟩ := revised.inbox member memberPresent own
      obtain rfl := distinct.eq_of_endpoint_eq formerPresent present
        (inbox.endpoint.trans sameName)
      rw [Participant.reached_origin own, ← inbox.pendingRemove] at queued
      exact absurd queued unqueued
    · have memberPresent := (revised.others member own).mp memberPresent
      obtain rfl := distinct.eq_of_endpoint_eq memberPresent present sameName
      cases session : member.hasSession with
      | true =>
          rw [Participant.reached_of_hasSession session] at queued
          exact absurd queued unqueued
      | false =>
          rcases (parked member own session).mp queued with old | ⟨named, noAdd⟩
          · exact absurd old unqueued
          · exact ⟨named, member, present, rfl, own, session, noAdd, unqueued⟩
  · rintro ⟨named, member, present, rfl, different, unconnected, noAdd, unqueued⟩
    refine ⟨member, present, rfl, unqueued, member.reached origin .remove streams, ?_,
      endpoint_reached origin .remove streams member,
      (parked member different unconnected).mpr (.inr ⟨named, noAdd⟩)⟩
    rw [members_route]
    exact List.mem_map_of_mem ((revised.others member different).mpr present)

theorem revokes_iff (revised : Revised roster base origin .remove streams)
    (distinct : roster.Distinct) :
    roster.Revokes (base.route origin .remove streams) endpoint item ↔
      item ∈ streams.items ∧ ∃ member ∈ roster.members, member.endpoint = endpoint ∧
        endpoint ≠ origin ∧ member.Listens item := by
  unfold Revokes
  rw [revised.told_iff, revised.parked_iff distinct, ← and_or_left]
  refine and_congr_right fun _ => ?_
  constructor
  · rintro (⟨member, present, named, different, connected⟩ |
      ⟨member, present, named, different, _, unqueued⟩)
    · exact ⟨member, present, named, different, .inl connected⟩
    · exact ⟨member, present, named, different, .inr unqueued⟩
  · rintro ⟨member, present, named, different, listens⟩
    cases session : member.hasSession with
    | true => exact .inl ⟨member, present, named, different, session⟩
    | false =>
        rw [Participant.Listens, session] at listens
        exact .inr ⟨member, present, named, different, session,
          listens.resolve_left Bool.false_ne_true⟩

end Revised

end Roster

namespace Signaling

/-- After any run, what a member gives up is taken away from another although a
third still holds it in exactly one case: the member and the third both held it,
and the removal finds the other with a session, or without either change of it
in its queues. -/
theorem third_party_revoked_iff (calls : List RosterCall) {origin : EndpointId}
    {call : RosterCall} (loss : call.IsLossOf origin) {result : List SourceUpdate × Roster}
    (success : (after calls).roster.handle call = .ok result) (endpoint : EndpointId)
    (item : StreamItem) :
    let roster := (after calls).roster
    (roster.Revokes result endpoint item ∧
        ∃ third, third ≠ origin ∧ third ≠ endpoint ∧ item ∈ result.2.held third) ↔
      (∃ third, third ≠ origin ∧ third ≠ endpoint ∧ item ∈ roster.held third) ∧
        (item ∈ roster.held origin ∧ item ∉ result.2.held origin) ∧
        ∃ member ∈ roster.members, member.endpoint = endpoint ∧ endpoint ≠ origin ∧
          member.Listens item := by
  intro roster
  have distinct := distinct_after calls
  obtain ⟨base, streams, revised, rfl⟩ :=
    Roster.revised_of_loss distinct loss (Roster.handled_of_handle success)
  have holders : (∃ third, third ≠ origin ∧ third ≠ endpoint ∧
      item ∈ (base.route origin .remove streams).2.held third) ↔
      ∃ third, third ≠ origin ∧ third ≠ endpoint ∧ item ∈ roster.held third := by
    refine exists_congr fun third => and_congr_right fun different => ?_
    rw [revised.held_of_ne different]
  rw [revised.revokes_iff distinct, holders, revised.mem_items_iff, and_comm]

open Simulation in
/-- A member announces a source of another and leaves while the session of a
third is down: the removal waits for the third, although the source is still sent. -/
theorem third_party_revoked_iff_of_leave :
    let shared : Streams := { sources := Sample.sourceSet .audio [111] }
    let calls : List RosterCall :=
      [.add (Sample.participant "alice"), .add (Sample.participant "bob"),
        .add (Sample.participant "carol"), .announce ⟨"alice"⟩ shared,
        .announce ⟨"bob"⟩ shared, .establish ⟨"carol"⟩ ⟨"first"⟩, .dropSession ⟨"carol"⟩]
    let result := ((after calls).roster.without ⟨"bob"⟩).route ⟨"bob"⟩ .remove
      (shared.withOwner (Sample.owner "bob"))
    (after calls).roster.handle (.remove ⟨"bob"⟩) = .ok result ∧
      (after calls).roster.Revokes result ⟨"carol"⟩ (.source .audio ⟨111⟩) ∧
      ∃ third, third ≠ ⟨"bob"⟩ ∧ third ≠ ⟨"carol"⟩ ∧
        .source .audio ⟨111⟩ ∈ result.2.held third := by
  intro shared calls result
  have success : (after calls).roster.handle (.remove ⟨"bob"⟩) = .ok result := by
    decide +kernel
  have loss : RosterCall.IsLossOf ⟨"bob"⟩ (.remove ⟨"bob"⟩) := rfl
  refine ⟨success, (third_party_revoked_iff calls loss success _ _).mpr ?_⟩
  exact ⟨⟨⟨"alice"⟩, by decide +kernel⟩, by decide +kernel, by decide +kernel⟩

open Simulation in
/-- One member makes the peer of another drop a source of a third, by announcing
the source itself and retracting it. -/
theorem retraction_revokes_shared_source :
    let shared : Streams := { sources := Sample.sourceSet .audio [111] }
    let calls : List RosterCall :=
      [.add (Sample.participant "alice"), .add (Sample.participant "bob"),
        .add (Sample.participant "carol"), .establish ⟨"carol"⟩ ⟨"first"⟩,
        .announce ⟨"alice"⟩ shared, .announce ⟨"bob"⟩ shared]
    ∃ result, (after calls).roster.handle (.retract ⟨"bob"⟩ shared) = .ok result ∧
      (∃ update ∈ result.1, update.target = ⟨"carol"⟩ ∧ update.kind = .remove ∧
        .source .audio ⟨111⟩ ∈ update.streams.items) ∧
      .source .audio ⟨111⟩ ∈ result.2.held ⟨"alice"⟩ := by
  intro shared calls
  let bob := ((Sample.participant "bob").scheduleAdd
    (shared.withOwner (Sample.owner "alice"))).addStreams (shared.withOwner (Sample.owner "bob"))
  let result := ((after calls).roster.replace (bob.withdraw shared).2).route ⟨"bob"⟩ .remove
    (bob.withdraw shared).1
  exact ⟨result, by decide +kernel, by decide +kernel, by decide +kernel⟩

end Signaling

end ConferenceFocus
