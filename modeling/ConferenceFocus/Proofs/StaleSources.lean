import Mathlib.Data.List.Infix
import ConferenceFocus.Proofs.PeerStanding
import ConferenceFocus.Simulation.Sample

/-!
# Sources a peer is not told are gone

A member may announce again what it holds.  Where another member has heard of
it and is without a session, the second announcement waits as an add, and the
retraction that follows cancels against it: nothing tells the peer any more that
the source is gone.  Exactly in this way a peer comes to keep a source that
nobody else holds.
-/

namespace ConferenceFocus

/-- At some step of a run something happened, and something else has lasted
from the end of that step on. -/
def Since {α : Type} (happened : List α → α → Prop) (lasting : List α → Prop)
    (run : List α) : Prop :=
  ∃ earlier step, earlier ++ [step] <+: run ∧ happened earlier step ∧
    ∀ moment, earlier ++ [step] <+: moment → moment <+: run → lasting moment

theorem since_concat {α : Type} {happened : List α → α → Prop} {lasting : List α → Prop}
    {run : List α} {step : α} :
    Since happened lasting (run ++ [step]) ↔
      lasting (run ++ [step]) ∧ (Since happened lasting run ∨ happened run step) := by
  constructor
  · rintro ⟨earlier, last, reached, happening, lasts⟩
    refine ⟨lasts _ reached List.prefix_rfl, ?_⟩
    rcases List.prefix_concat_iff.mp reached with same | before
    · obtain ⟨rfl, sameStep⟩ := List.append_inj' same rfl
      obtain rfl := (List.cons.inj sameStep).1
      exact .inr happening
    · refine .inl ⟨earlier, last, before, happening, ?_⟩
      intro moment since reached
      exact lasts moment since (reached.trans (List.prefix_append run [step]))
  · rintro ⟨now, ⟨earlier, last, before, happening, lasts⟩ | happening⟩
    · refine ⟨earlier, last, before.trans (List.prefix_append run [step]), happening, ?_⟩
      intro moment since reached
      rcases List.prefix_concat_iff.mp reached with rfl | reached
      · exact now
      · exact lasts moment since reached
    · refine ⟨run, step, List.prefix_rfl, happening, ?_⟩
      intro moment since reached
      rwa [reached.eq_of_length (reached.length_le.antisymm since.length_le)]

theorem Since.lasting {α : Type} {happened : List α → α → Prop} {lasting : List α → Prop}
    {run : List α} (since : Since happened lasting run) : lasting run := by
  obtain ⟨earlier, step, reached, _, lasts⟩ := since
  exact lasts run reached List.prefix_rfl

/-- A member that joins is taken in with nothing waiting for it. -/
def RosterCall.JoinsUnqueued : RosterCall → Prop
  | .add member => member.pendingAdd.isEmpty = true ∧ member.pendingRemove.isEmpty = true
  | _ => True

instance (call : RosterCall) : Decidable call.JoinsUnqueued :=
  match call with
  | .add _ => inferInstanceAs (Decidable (_ ∧ _))
  | .announce _ _ | .retract _ _ | .remove _ | .establish _ _ | .dropSession _ => isTrue trivial

namespace Signaling

variable {item : StreamItem}

/-- A run in which members join with nothing waiting for them, and no source is
ever held by two of them; a member may announce again what it holds. -/
structure Exclusive (calls : List RosterCall) : Prop where
  joins : ∀ call ∈ calls, call.JoinsUnqueued
  apart : ∀ moment, moment <+: calls → (after moment).roster.SourcesApart

instance (calls : List RosterCall) : Decidable (Exclusive calls) :=
  decidable_of_iff ((∀ call ∈ calls, call.JoinsUnqueued) ∧
      ∀ moment ∈ calls.inits, (after moment).roster.SourcesApart)
    ⟨fun ⟨joins, apart⟩ =>
        ⟨joins, fun moment reached => apart moment ((List.mem_inits moment calls).mpr reached)⟩,
      fun exclusive => ⟨exclusive.joins, fun moment reached =>
        exclusive.apart moment ((List.mem_inits moment calls).mp reached)⟩⟩

theorem Exclusive.of_concat {calls : List RosterCall} {call : RosterCall}
    (exclusive : Exclusive (calls ++ [call])) : Exclusive calls where
  joins := fun earlier made => exclusive.joins earlier (List.mem_append_left _ made)
  apart := fun moment reached =>
    exclusive.apart moment (reached.trans (List.prefix_append calls [call]))

/-- A member is in the roster, and nobody else there holds the item. -/
def Abandoned (endpoint : EndpointId) (item : StreamItem) (calls : List RosterCall) : Prop :=
  (∃ member ∈ (after calls).roster.members, member.endpoint = endpoint) ∧
    item ∉ ((after calls).roster.streamsExcept endpoint).items

/-- By the call nobody else holds the item any more, while the member is without
a session and waits to be told of it a second time. -/
def Absorbs (endpoint : EndpointId) (item : StreamItem) (calls : List RosterCall)
    (call : RosterCall) : Prop :=
  (∃ member ∈ (after calls).roster.members, member.endpoint = endpoint ∧
      member.hasSession = false ∧ item ∈ member.pendingAdd.items) ∧
    item ∈ (after calls).heard endpoint ∧
    item ∉ ((after (calls ++ [call])).roster.streamsExcept endpoint).items

instance (endpoint : EndpointId) (item : StreamItem) (calls : List RosterCall) :
    Decidable (Abandoned endpoint item calls) :=
  inferInstanceAs (Decidable (_ ∧ _))

instance (endpoint : EndpointId) (item : StreamItem) (calls : List RosterCall)
    (call : RosterCall) : Decidable (Absorbs endpoint item calls call) :=
  inferInstanceAs (Decidable (_ ∧ _ ∧ _))

theorem abandoned_iff {calls : List RosterCall} {member : Participant}
    (present : member ∈ (after calls).roster.members) :
    Abandoned member.endpoint item calls ↔ item ∉ ((after calls).standing member).elsewhere := by
  rw [Abandoned, Roster.items_streamsExcept]
  exact and_iff_right ⟨member, present, rfl⟩

theorem absorbs_iff {calls : List RosterCall} {call : RosterCall} {member : Participant}
    (present : member ∈ (after calls).roster.members)
    (sound : ((after calls).standing member).Sound item) :
    Absorbs member.endpoint item calls call ↔
      ((after calls).standing member).Doubled item ∧
        item ∉ (after (calls ++ [call])).roster.heldElsewhere member.endpoint := by
  rw [Absorbs, Roster.items_streamsExcept]
  constructor
  · rintro ⟨⟨other, otherPresent, named, _, queued⟩, heard, gone⟩
    obtain rfl := (distinct_after calls).eq_of_endpoint_eq otherPresent present named
    exact ⟨⟨heard, queued⟩, gone⟩
  · rintro ⟨⟨heard, queued⟩, gone⟩
    refine ⟨⟨member, present, rfl, ?_, queued⟩, heard, gone⟩
    rw [Bool.eq_false_iff]
    exact fun connected => (sound.idle connected).1 queued

/-- The step of `sound_and_stale_iff` for a member that was there before. -/
theorem sound_and_stale_iff_of_continues {calls : List RosterCall} {call : RosterCall}
    {member before : Participant} (present : member ∈ (after (calls ++ [call])).roster.members)
    (beforePresent : before ∈ (after calls).roster.members)
    (named : before.endpoint = member.endpoint)
    (moves : Standing.Moves item ((after calls).standing before)
      ((after (calls ++ [call])).standing member))
    (sound : ((after calls).standing before).Sound item)
    (stale : ((after calls).standing before).Stale item ↔
      Since (Absorbs before.endpoint item) (Abandoned before.endpoint item) calls) :
    ((after (calls ++ [call])).standing member).Sound item ∧
      (((after (calls ++ [call])).standing member).Stale item ↔
        Since (Absorbs member.endpoint item) (Abandoned member.endpoint item)
          (calls ++ [call])) := by
  refine ⟨moves.sound sound, ?_⟩
  rw [moves.stale_iff sound, since_concat, abandoned_iff present, stale, ← named,
    absorbs_iff beforePresent sound, named]
  refine and_congr_right fun gone => or_congr_right ?_
  exact (and_iff_left gone).symm

/-- In an exclusive run a source is stale exactly if its removal was absorbed and
it has been abandoned since. -/
theorem sound_and_stale_iff (media : MediaType) (ssrc : Ssrc) {calls : List RosterCall}
    (exclusive : Exclusive calls) {member : Participant}
    (present : member ∈ (after calls).roster.members) :
    ((after calls).standing member).Sound (.source media ssrc) ∧
      (((after calls).standing member).Stale (.source media ssrc) ↔
        Since (Absorbs member.endpoint (.source media ssrc))
          (Abandoned member.endpoint (.source media ssrc)) calls) := by
  induction calls using List.reverseRecOn generalizing member with
  | nil => exact absurd present List.not_mem_nil
  | append_singleton calls call ih =>
      have step := after_concat calls call
      rcases joined_or_continues (distinct_after calls)
        (exclusive.of_concat.apart calls List.prefix_rfl) call (step ▸ present) media ssrc with
        ⟨rfl, free, heard⟩ | ⟨before, beforePresent, named, moves⟩
      · obtain ⟨noAdd, noRemove⟩ :=
          exclusive.joins (.add member) (List.mem_append_right _ (List.mem_singleton_self _))
        rw [← step] at heard
        refine ⟨Standing.sound_of_unqueued (Streams.isEmpty_iff_items.mp noAdd)
          (Streams.isEmpty_iff_items.mp noRemove), iff_of_false ?_ ?_⟩
        · rintro ⟨known, _, gone⟩
          exact gone (heard.subset known)
        · rw [since_concat]
          rintro ⟨_, since | ⟨⟨other, otherPresent, named, _⟩, _⟩⟩
          · obtain ⟨⟨other, otherPresent, named⟩, _⟩ := since.lasting
            exact free other otherPresent named
          · exact free other otherPresent named
      · obtain ⟨sound, stale⟩ := ih exclusive.of_concat beforePresent
        rw [← step] at moves
        exact sound_and_stale_iff_of_continues present beforePresent named moves sound stale

/-- In an exclusive run no removal waits for a member that can be told, and a peer
has heard of a source that no other member holds, with no removal of it on the
way, in exactly one case: it was given up while the member was without a session
and waited to be told of it a second time, and nobody else has held it since. -/
theorem stale_iff_absorbed {calls : List RosterCall} (exclusive : Exclusive calls)
    {member : Participant} (present : member ∈ (after calls).roster.members)
    (media : MediaType) (ssrc : Ssrc) :
    let source : StreamItem := .source media ssrc
    (member.hasSession = true → source ∉ member.pendingRemove.items) ∧
      (source ∈ (after calls).heard member.endpoint ∧ source ∉ member.pendingRemove.items ∧
          source ∉ ((after calls).roster.streamsExcept member.endpoint).items ↔
        Since (Absorbs member.endpoint source) (Abandoned member.endpoint source) calls) := by
  intro source
  obtain ⟨sound, stale⟩ := sound_and_stale_iff media ssrc exclusive present
  rw [Roster.items_streamsExcept]
  exact ⟨fun connected => (sound.idle connected).2, stale⟩

open Simulation in
/-- While the session of a member is down, a source it has heard of is announced
once more, and then its owner leaves. -/
theorem stale_iff_absorbed_of_lost_session :
    let one : Streams := { sources := Sample.sourceSet .audio [1] }
    let calls : List RosterCall :=
      [.add (Sample.participant "alice"), .add (Sample.participant "bob"),
        .establish ⟨"bob"⟩ ⟨"first"⟩, .announce ⟨"alice"⟩ one, .dropSession ⟨"bob"⟩,
        .announce ⟨"alice"⟩ one]
    let run := calls ++ [.remove ⟨"alice"⟩] ++ [.establish ⟨"bob"⟩ ⟨"second"⟩]
    Exclusive run ∧ ∃ member ∈ (after run).roster.members, member.hasSession = true ∧
      .source .audio ⟨1⟩ ∈ (after run).heard member.endpoint ∧
        .source .audio ⟨1⟩ ∉ member.pendingRemove.items ∧
        .source .audio ⟨1⟩ ∉ ((after run).roster.streamsExcept member.endpoint).items := by
  intro one calls run
  have exclusive : Exclusive run := by decide +kernel
  obtain ⟨member, present, named, connected⟩ : ∃ member ∈ (after run).roster.members,
      member.endpoint = ⟨"bob"⟩ ∧ member.hasSession = true := by decide +kernel
  have absorbed : Since (Absorbs ⟨"bob"⟩ (.source .audio ⟨1⟩))
      (Abandoned ⟨"bob"⟩ (.source .audio ⟨1⟩)) run :=
    since_concat.mpr ⟨by decide +kernel,
      .inl (since_concat.mpr ⟨by decide +kernel, .inr (by decide +kernel)⟩)⟩
  rw [← named] at absorbed
  exact ⟨exclusive, member, present, connected,
    (stale_iff_absorbed exclusive present .audio ⟨1⟩).2.mpr absorbed⟩

open Simulation in
/-- A newcomer hears of a source when it joins, and of its second announcement
never; the retraction cancels that announcement and is not told either. -/
theorem retraction_missed_by_newcomer :
    let one : Streams := { sources := Sample.sourceSet .audio [1] }
    let source : StreamItem := .source .audio ⟨1⟩
    let run : List RosterCall :=
      [.add (Sample.participant "alice"), .announce ⟨"alice"⟩ one,
        .add (Sample.participant "bob"), .announce ⟨"alice"⟩ one, .retract ⟨"alice"⟩ one,
        .establish ⟨"bob"⟩ ⟨"first"⟩]
    Exclusive run ∧ ∃ member ∈ (after run).roster.members, member.hasSession = true ∧
      source ∈ (after run).heard member.endpoint ∧
        source ∉ ((after run).roster.streamsExcept member.endpoint).items := by
  decide +kernel

end Signaling

end ConferenceFocus
