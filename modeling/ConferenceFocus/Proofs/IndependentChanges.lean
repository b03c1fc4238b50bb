import Mathlib.Data.List.Forall2
import ConferenceFocus.Proofs.RearrangedQueues
import ConferenceFocus.Proofs.RosterRuns
import ConferenceFocus.Simulation.Sample

/-!
# Independent changes

Two members change their streams.  Each change is written into the queues of all
others that are without a session, those of the other of the two included.  Where
the changes have nothing in common it does not matter which comes first: both tell
the same to the same members, and the rosters they lead to are alike.

What a change comes to depends on the streams of the member that makes it alone, and
the other change leaves these as they are (`revise_reached`); for a third member it
is a matter of its queues (`alike_reached_reached`).
-/

namespace ConferenceFocus

/-- A member announces streams, or retracts them. -/
structure SourceChange where
  origin : EndpointId
  kind : ChangeKind
  streams : Streams

namespace Participant

/-- Makes a change to a member's own streams, and returns what others are told of it. -/
def revise (member : Participant) (kind : ChangeKind) (streams : Streams) :
    Streams × Participant :=
  match kind with
  | .add =>
      let stamped := streams.withOwner member.owner
      (stamped, member.addStreams stamped)
  | .remove => member.withdraw streams

theorem sameInbox_revise (member : Participant) (kind : ChangeKind) (streams : Streams) :
    member.SameInbox (member.revise kind streams).2 := by
  cases kind with
  | add => exact member.sameInbox_addStreams _
  | remove => exact member.sameInbox_withdraw streams

/-- Being told of a change of another member and making one do not interfere. -/
theorem revise_reached (member : Participant) (origin : EndpointId) (told : ChangeKind)
    (payload : Streams) (kind : ChangeKind) (streams : Streams) :
    (member.reached origin told payload).revise kind streams =
      ((member.revise kind streams).1,
        (member.revise kind streams).2.reached origin told payload) := by
  have sameInbox := member.sameInbox_revise kind streams
  unfold reached park hasSession
  rw [← sameInbox.endpoint, ← sameInbox.session]
  split
  · rfl
  · split
    · rfl
    · cases told <;> cases kind <;> rfl

theorem session_reached (member : Participant) (origin : EndpointId) (kind : ChangeKind)
    (streams : Streams) : (member.reached origin kind streams).session = member.session := by
  unfold reached park
  split
  · rfl
  · split
    · rfl
    · cases kind <;> rfl

/-- A change either passes by a member or is queued for it, which of the two depends on
its name and its session alone. -/
theorem reached_eq_self_or_schedule (member : Participant) (origin : EndpointId)
    (kind : ChangeKind) (streams : Streams) :
    (∀ later : Participant, later.endpoint = member.endpoint → later.session = member.session →
        later.reached origin kind streams = later) ∨
      ∀ later : Participant, later.endpoint = member.endpoint → later.session = member.session →
        later.reached origin kind streams = later.schedule kind streams := by
  unfold reached park hasSession
  by_cases spared : member.endpoint = origin ∨ streams.isEmpty = true
  · left
    intro later sameName _
    rw [sameName, if_pos spared]
  · by_cases connected : member.session.isSome = true
    · left
      intro later _ sameSession
      rw [sameSession, if_pos connected, ite_self]
    · right
      intro later sameName sameSession
      rw [sameName, sameSession, if_neg spared, if_neg connected]

/-- A member that makes neither of two changes without anything in common can be told of
them in either order. -/
theorem alike_reached_reached (member : Participant) {left right : Streams}
    (apart : Disjoint left.items right.items) (first second : EndpointId)
    (kind other : ChangeKind) :
    ((member.reached first kind left).reached second other right).Alike
      ((member.reached second other right).reached first kind left) := by
  have sameName := Roster.endpoint_reached first kind left member
  have sameSession := member.session_reached first kind left
  have otherName := Roster.endpoint_reached second other right member
  have otherSession := member.session_reached second other right
  rcases member.reached_eq_self_or_schedule first kind left with spared | queued
  · rw [spared member rfl rfl, spared _ otherName otherSession]
    exact .refl _
  rcases member.reached_eq_self_or_schedule second other right with spared | queuedToo
  · rw [spared member rfl rfl, spared _ sameName sameSession]
    exact .refl _
  · rw [queuedToo _ sameName sameSession, queued _ otherName otherSession, queued member rfl rfl,
      queuedToo member rfl rfl]
    exact member.alike_schedule_schedule kind apart other

end Participant

namespace SourceChange

/-- What a change of a member may touch: what it names, and the groups of the member,
which may go with their sources. -/
def touched (change : SourceChange) (member : Participant) : Streams :=
  { change.streams with groups := change.streams.groups.union member.own.groups }

/-- A member after a change was made, by itself or by another. -/
def effect (change : SourceChange) (payload : Streams) (member : Participant) : Participant :=
  if member.endpoint = change.origin then (member.revise change.kind change.streams).2
  else member.reached change.origin change.kind payload

variable {change other : SourceChange} {member : Participant} {payload : Streams}

theorem effect_origin (own : member.endpoint = change.origin) (payload : Streams) :
    change.effect payload member = (member.revise change.kind change.streams).2 :=
  if_pos own

theorem effect_of_ne (different : member.endpoint ≠ change.origin) (payload : Streams) :
    change.effect payload member = member.reached change.origin change.kind payload :=
  if_neg different

theorem endpoint_effect (change : SourceChange) (payload : Streams) (member : Participant) :
    (change.effect payload member).endpoint = member.endpoint := by
  unfold effect
  split
  · exact (member.sameInbox_revise change.kind change.streams).endpoint.symm
  · exact Roster.endpoint_reached _ _ _ member

theorem session_effect (change : SourceChange) (payload : Streams) (member : Participant) :
    (change.effect payload member).session = member.session := by
  unfold effect
  split
  · exact (member.sameInbox_revise change.kind change.streams).session.symm
  · exact member.session_reached _ _ _

/-- The others are told of nothing that the change does not touch. -/
theorem items_payload_subset (change : SourceChange) (member : Participant) :
    (member.revise change.kind change.streams).1.items ⊆ (change.touched member).items := by
  obtain ⟨origin, kind, streams⟩ := change
  cases kind with
  | add =>
      simp only [Participant.revise, Streams.items_withOwner]
      intro item named
      cases item with
      | source media ssrc => exact named
      | group media group =>
          simp only [touched, Streams.mem_items, Streams.names, MediaSet.contains_union] at named ⊢
          rw [named, Bool.true_or]
  | remove =>
      intro item gone
      cases item with
      | source media ssrc =>
          have owned : (member.own.inter streams).sources.contains media ssrc = true := gone
          rw [Streams.inter, MediaSet.contains_inter, Bool.and_eq_true] at owned
          exact owned.2
      | group media group =>
          have owned : member.own.groups.contains media group = true :=
            (member.items_withdraw streams).1 gone
          simp only [touched, Streams.mem_items, Streams.names, MediaSet.contains_union, owned,
            Bool.or_true]

/-- The member that makes one of two changes is told of the other before or after. -/
theorem effect_effect_origin (own : member.endpoint = change.origin)
    (different : change.origin ≠ other.origin) (one second : Streams) :
    other.effect second (change.effect one member) =
      change.effect one (other.effect second member) := by
  have foreign : member.endpoint ≠ other.origin := own ▸ different
  have left : (change.effect one member).endpoint ≠ other.origin := by rwa [endpoint_effect]
  have right : (other.effect second member).endpoint = change.origin := by rwa [endpoint_effect]
  rw [effect_of_ne left, effect_origin right, effect_origin own, effect_of_ne foreign,
    Participant.revise_reached]

theorem alike_effect_effect (different : change.origin ≠ other.origin) {one second : Streams}
    (apart : Disjoint one.items second.items) (member : Participant) :
    (other.effect second (change.effect one member)).Alike
      (change.effect one (other.effect second member)) := by
  by_cases own : member.endpoint = change.origin
  · rw [effect_effect_origin own different]
    exact .refl _
  by_cases ownToo : member.endpoint = other.origin
  · rw [← effect_effect_origin ownToo (Ne.symm different)]
    exact .refl _
  · rw [effect_of_ne own, effect_of_ne ownToo, effect_of_ne, effect_of_ne]
    · exact member.alike_reached_reached apart _ _ _ _
    · rwa [Roster.endpoint_reached]
    · rwa [Roster.endpoint_reached]

end SourceChange

namespace Roster

def change (roster : Roster) (change : SourceChange) :
    Except RosterError (List SourceUpdate × Roster) :=
  match change.kind with
  | .add => roster.announce change.origin change.streams
  | .remove => roster.retract change.origin change.streams

variable {roster : Roster} {member : Participant}

theorem get_of_mem (distinct : roster.Distinct) (present : member ∈ roster.members) :
    roster.get member.endpoint = .ok member := by
  unfold get
  cases lookup : roster.find? member.endpoint with
  | none =>
      have absent := List.find?_eq_none.mp lookup member present
      exact absurd rfl (of_decide_eq_false (Bool.eq_false_iff.mpr absent))
  | some other =>
      have named : other.endpoint = member.endpoint := by simpa using List.find?_some lookup
      rw [distinct.eq_of_endpoint_eq (List.mem_of_find?_eq_some lookup) present named]

/-- Who is told of a change is a matter of names and sessions. -/
theorem updates_map {later : Participant → Participant}
    (sameName : ∀ other ∈ roster.members, (later other).endpoint = other.endpoint)
    (sameSession : ∀ other ∈ roster.members, (later other).session = other.session)
    (origin : EndpointId) (kind : ChangeKind) (streams : Streams) :
    ((⟨roster.members.map later⟩ : Roster).route origin kind streams).1 =
      (roster.route origin kind streams).1 := by
  unfold route
  split
  · rfl
  · simp only [List.filterMap_filter, List.filterMap_map]
    apply List.filterMap_congr
    intro other present
    simp only [Function.comp_apply, Participant.update?, sameName other present,
      sameSession other present]

/-- A change of a member tells the others what `revise` says, and has its effect on each
member by itself. -/
theorem change_eq_ok (distinct : roster.Distinct) (present : member ∈ roster.members)
    {change : SourceChange} (named : member.endpoint = change.origin) :
    let payload := (member.revise change.kind change.streams).1
    roster.change change =
      .ok ((roster.route change.origin change.kind payload).1,
        ⟨roster.members.map (change.effect payload)⟩) := by
  intro payload
  let revised := (member.revise change.kind change.streams).2
  have sameInbox := member.sameInbox_revise change.kind change.streams
  have made : roster.change change =
      .ok ((roster.replace revised).route change.origin change.kind payload) := by
    obtain ⟨origin, kind, streams⟩ := change
    cases named
    cases kind with
    | add => simp only [Roster.change, announce, get_of_mem distinct present]; rfl
    | remove => simp only [Roster.change, retract, get_of_mem distinct present]; rfl
  have sole (other : Participant) (otherPresent : other ∈ roster.members)
      (same : other.endpoint = revised.endpoint) : other = member :=
    distinct.eq_of_endpoint_eq otherPresent present (same.trans sameInbox.endpoint.symm)
  have told : ((roster.replace revised).route change.origin change.kind payload).1 =
      (roster.route change.origin change.kind payload).1 := by
    apply updates_map
    · intro other otherPresent
      split
      · next same => exact same.symm
      · rfl
    · intro other otherPresent
      split
      · next same => rw [sole other otherPresent same, sameInbox.session]
      · rfl
  have left : ((roster.replace revised).route change.origin change.kind payload).2 =
      ⟨roster.members.map (change.effect payload)⟩ := by
    apply congrArg Roster.mk
    rw [members_route, replace, List.map_map]
    apply List.map_congr_left
    intro other otherPresent
    rw [Function.comp_apply]
    by_cases own : other.endpoint = change.origin
    · have itself : other = member :=
        distinct.eq_of_endpoint_eq otherPresent present (own.trans named.symm)
      rw [itself, if_pos sameInbox.endpoint, SourceChange.effect_origin named,
        Participant.reached_origin (sameInbox.endpoint.symm.trans named)]
    · rw [if_neg (fun same => own (same.trans (sameInbox.endpoint.symm.trans named))),
        SourceChange.effect_of_ne own]
  rw [made, ← told, ← left]

/-- What a change comes to where another member has made a change before. -/
theorem change_map_effect (distinct : roster.Distinct) (present : member ∈ roster.members)
    {change earlier : SourceChange} (named : member.endpoint = change.origin)
    (different : change.origin ≠ earlier.origin) (told : Streams) :
    let payload := (member.revise change.kind change.streams).1
    (⟨roster.members.map (earlier.effect told)⟩ : Roster).change change =
      .ok ((roster.route change.origin change.kind payload).1,
        ⟨roster.members.map fun other => change.effect payload (earlier.effect told other)⟩) := by
  intro payload
  have foreign : member.endpoint ≠ earlier.origin := named ▸ different
  have stillDistinct : (⟨roster.members.map (earlier.effect told)⟩ : Roster).Distinct := by
    simpa only [Distinct, List.map_map, Function.comp_def, SourceChange.endpoint_effect]
      using distinct
  have stillNamed := (earlier.endpoint_effect told member).trans named
  have samePayload :
      ((earlier.effect told member).revise change.kind change.streams).1 = payload := by
    rw [SourceChange.effect_of_ne foreign, Participant.revise_reached]
  rw [change_eq_ok stillDistinct (List.mem_map_of_mem present) stillNamed, samePayload,
    updates_map (fun other _ => earlier.endpoint_effect told other)
      (fun other _ => earlier.session_effect told other), List.map_map]
  rfl

/-- A roster that some run of calls leads to. -/
def Reachable (roster : Roster) : Prop :=
  ∃ calls, (Signaling.after calls).roster = roster

/-- Members join in any state, so that nothing but the names of the members is restricted. -/
theorem reachable_iff_distinct : roster.Reachable ↔ roster.Distinct := by
  constructor
  · rintro ⟨calls, rfl⟩
    exact Signaling.distinct_after calls
  · obtain ⟨members⟩ := roster
    intro distinct
    induction members using List.reverseRecOn with
    | nil => exact ⟨[], rfl⟩
    | append_singleton members member ih =>
        rw [Distinct, List.map_append, List.nodup_append] at distinct
        obtain ⟨before, _, foreign⟩ := distinct
        obtain ⟨calls, leads⟩ := ih before
        have free : (⟨members⟩ : Roster).find? member.endpoint = none := by
          apply List.find?_eq_none.mpr
          intro other present
          rw [decide_eq_true_eq]
          exact foreign _ (List.mem_map_of_mem present) _ (List.mem_singleton_self _)
        have joined : (⟨members⟩ : Roster).handle (.add member) =
            .ok ([], ⟨members ++ [member]⟩) := by
          simp only [handle, add, free]
          rfl
        refine ⟨calls ++ [.add member], ?_⟩
        rw [Signaling.after_concat, Signaling.step, leads, joined]

/-- The same members in the same order, whose queues may be ordered differently. -/
def Alike (left right : Roster) : Prop :=
  List.Forall₂ Participant.Alike left.members right.members

/-- Whatever state a roster is in, two members can make changes to their streams that name
no source and touch no group in common in either order: both orders succeed, the others
are told the same of each change, and the members end up alike, with their own streams
in the same order. -/
theorem independent_changes_commute (reachable : roster.Reachable)
    {first second : SourceChange} {one other : Participant}
    (onePresent : one ∈ roster.members) (makesFirst : one.endpoint = first.origin)
    (otherPresent : other ∈ roster.members) (makesSecond : other.endpoint = second.origin)
    (different : first.origin ≠ second.origin)
    (apart : Disjoint (first.touched one).items (second.touched other).items) :
    ∃ firstTold secondTold afterFirst afterSecond left right,
      roster.change first = .ok (firstTold, afterFirst) ∧
        afterFirst.change second = .ok (secondTold, left) ∧
        roster.change second = .ok (secondTold, afterSecond) ∧
        afterSecond.change first = .ok (firstTold, right) ∧ left.Alike right := by
  have distinct := reachable_iff_distinct.mp reachable
  have payloadsApart := apart.mono (first.items_payload_subset one)
    (second.items_payload_subset other)
  refine ⟨_, _, _, _, _, _, change_eq_ok distinct onePresent makesFirst,
    change_map_effect distinct otherPresent makesSecond (Ne.symm different) _,
    change_eq_ok distinct otherPresent makesSecond,
    change_map_effect distinct onePresent makesFirst different _, ?_⟩
  rw [Alike, List.forall₂_map_left_iff, List.forall₂_map_right_iff, List.forall₂_same]
  intro member _
  exact SourceChange.alike_effect_effect different payloadsApart member

open Simulation in
/-- Two retractions, one of which takes a group along, wait for a member that has lost its
session: in which order they were made shows in its queue. -/
theorem independent_changes_commute_of_lost_layer :
    let layers : Streams :=
      { sources := Sample.sourceSet .video [1, 2], groups := Sample.simulcastGroups [1, 2] }
    let calls : List RosterCall :=
      [.add (Sample.participant "alice"), .add (Sample.participant "bob"),
        .add (Sample.participant "carol"), .establish ⟨"carol"⟩ ⟨"first"⟩,
        .announce ⟨"alice"⟩ layers,
        .announce ⟨"bob"⟩ { sources := Sample.sourceSet .video [3] },
        .dropSession ⟨"carol"⟩]
    let roster := (Signaling.after calls).roster
    let first : SourceChange :=
      { origin := ⟨"alice"⟩, kind := .remove, streams := { sources := Sample.sourceSet .video [2] } }
    let second : SourceChange :=
      { origin := ⟨"bob"⟩, kind := .remove, streams := { sources := Sample.sourceSet .video [3] } }
    ∃ firstTold secondTold afterFirst afterSecond left right,
      roster.change first = .ok (firstTold, afterFirst) ∧
        afterFirst.change second = .ok (secondTold, left) ∧
        roster.change second = .ok (secondTold, afterSecond) ∧
        afterSecond.change first = .ok (firstTold, right) ∧ left.Alike right ∧ left ≠ right := by
  intro layers calls roster first second
  have reachable : roster.Reachable := ⟨calls, rfl⟩
  obtain ⟨alice, alicePresent, makesFirst, bob, bobPresent, makesSecond, apart⟩ :
      ∃ alice ∈ roster.members, alice.endpoint = first.origin ∧
        ∃ bob ∈ roster.members, bob.endpoint = second.origin ∧
          ((first.touched alice).inter (second.touched bob)).isEmpty = true := by
    decide +kernel
  obtain ⟨_, _, _, _, left, right, one, thenOther, other, thenOne, alike⟩ :=
    independent_changes_commute reachable alicePresent makesFirst bobPresent makesSecond
      (by decide) (Streams.disjoint_items_iff.mpr apart)
  refine ⟨_, _, _, _, left, right, one, thenOther, other, thenOne, alike, fun same => ?_⟩
  have leftLast : (roster.change first >>= fun told => Prod.snd <$> told.2.change second) =
      .ok left := by
    simp only [one, thenOther, bind, Except.bind]
    rfl
  have rightLast : (roster.change second >>= fun told => Prod.snd <$> told.2.change first) =
      .ok right := by
    simp only [other, thenOne, bind, Except.bind]
    rfl
  exact absurd (leftLast.trans ((congrArg _ same).trans rightLast.symm)) (by decide +kernel)

end Roster

end ConferenceFocus
