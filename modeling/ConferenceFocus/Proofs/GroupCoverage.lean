import ConferenceFocus.Proofs.SourceOwners
import ConferenceFocus.Simulation.Sample

/-!
# Groups and the sources they name

A group is covered while every SSRC it names is a source of the same medium.  To
take sources away from a member takes exactly the groups away that are no longer
covered, so that coverage can only be lost by taking in a group that never had
its sources.
-/

namespace ConferenceFocus

/-- Every step of a run is permitted in the state that it is taken in. -/
def Permits {σ α : Type} (step : σ → α → σ) (permitted : σ → α → Prop) : σ → List α → Prop
  | _, [] => True
  | state, action :: rest => permitted state action ∧ Permits step permitted (step state action) rest

namespace Permits

variable {σ α : Type} {step : σ → α → σ} {permitted : σ → α → Prop} {state : σ} {actions : List α}

instance decide [∀ state action, Decidable (permitted state action)] :
    (state : σ) → (actions : List α) → Decidable (Permits step permitted state actions)
  | _, [] => isTrue trivial
  | state, action :: rest =>
      have := decide (step state action) rest
      inferInstanceAs (Decidable (_ ∧ _))

/-- What every permitted step keeps holds after every run of them. -/
theorem foldl_induction (permits : Permits step permitted state actions) (keeps : σ → Prop)
    (start : keeps state)
    (kept : ∀ state action, permitted state action → keeps state → keeps (step state action)) :
    keeps (actions.foldl step state) := by
  induction actions generalizing state with
  | nil => exact start
  | cons action rest ih =>
      obtain ⟨now, later⟩ := permits
      exact ih later (kept state action now start)

end Permits

/-- The sources have every SSRC that the group names, under this medium. -/
def SourceSet.Covers (sources : SourceSet) (media : MediaType) (group : SourceGroup) : Prop :=
  ∀ ssrc ∈ group.ssrcs, sources.contains media ssrc = true

instance (sources : SourceSet) (media : MediaType) (group : SourceGroup) :
    Decidable (sources.Covers media group) :=
  inferInstanceAs (Decidable (∀ ssrc ∈ group.ssrcs, _))

theorem GroupSet.entriesFor_uncoveredBy (groups : GroupSet) (sources : SourceSet)
    (media : MediaType) :
    (groups.uncoveredBy sources).entriesFor media =
      (groups.entriesFor media).filter fun group => ¬ sources.Covers media group := by
  rw [uncoveredBy, MediaSet.entriesFor_filter]
  refine List.filter_congr fun group _ => ?_
  rw [Bool.eq_iff_iff, decide_eq_true_eq]
  simp [SourceSet.Covers]

namespace Streams

/-- All groups are covered by the sources beside them. -/
def Covered (streams : Streams) : Prop :=
  ∀ media, ∀ group ∈ streams.groups.entriesFor media, streams.sources.Covers media group

/-- Each SSRC that a group names comes with it, or is among the sources of `own`. -/
def GroundedIn (streams own : Streams) : Prop :=
  ∀ media, ∀ group ∈ streams.groups.entriesFor media, ∀ ssrc ∈ group.ssrcs,
    streams.sources.contains media ssrc = true ∨ own.sources.contains media ssrc = true

instance (streams : Streams) : Decidable streams.Covered :=
  inferInstanceAs (Decidable (∀ media, ∀ group ∈ streams.groups.entriesFor media, _))

instance (streams own : Streams) : Decidable (streams.GroundedIn own) :=
  inferInstanceAs (Decidable (∀ media, ∀ group ∈ streams.groups.entriesFor media, _))

variable {own brought added : Streams}

theorem covered_empty : (∅ : Streams).Covered := by
  intro media group member
  have nothing : (∅ : Streams).groups.entriesFor media = [] := MediaSet.entriesFor_empty media
  rw [nothing] at member
  cases member

/-- Grounded groups stay covered where all that came with them is taken in. -/
theorem Covered.union (covered : own.Covered) (grounded : brought.GroundedIn own)
    (groups : ∀ media, added.groups.entriesFor media ⊆ brought.groups.entriesFor media)
    (sources : ∀ media ssrc, brought.sources.contains media ssrc = true →
      own.sources.contains media ssrc = true ∨ added.sources.contains media ssrc = true) :
    (own.union added).Covered := by
  intro media group member ssrc named
  rw [Streams.union, MediaSet.contains_union, Bool.or_eq_true]
  rw [Streams.union, MediaSet.entriesFor_union] at member
  rcases Keyed.mem_of_mem_appendAll member with held | new
  · exact .inl (covered media group held ssrc named)
  · rcases grounded media group (groups media new) ssrc named with came | held
    · exact sources media ssrc came
    · exact .inl held

theorem Covered.foldl_union {all : List Streams} (start : own.Covered)
    (covered : ∀ streams ∈ all, streams.Covered) : (all.foldl Streams.union own).Covered := by
  induction all generalizing own with
  | nil => exact start
  | cons first rest ih =>
      obtain ⟨now, later⟩ := List.forall_mem_cons.mp covered
      have grounded : first.GroundedIn own :=
        fun media group member ssrc named => .inl (now media group member ssrc named)
      exact ih (start.union grounded (fun _ => List.Subset.refl _) fun _ _ => .inr) later

end Streams

/-- What a member can do to its own streams. -/
inductive OwnChange where
  | importAnswer (contents : List MediaContent)
  | addStreams (streams : Streams)
  | removeSources (sources : SourceSet)
  | removeGroups (groups : GroupSet)

/-- The streams that a change takes in, as they arrive. -/
def OwnChange.brought : OwnChange → Streams
  | importAnswer contents => Streams.ofContents contents
  | addStreams streams => streams
  | removeSources _ | removeGroups _ => ∅

namespace Participant

variable {member : Participant}

def changeOwn (member : Participant) : OwnChange → Participant
  | .importAnswer contents => (member.importAnswer contents).2
  | .addStreams streams => member.addStreams streams
  | .removeSources sources => (member.removeSources sources).2
  | .removeGroups groups => member.removeGroups groups

section RemoveSources

variable (member : Participant) (sources : SourceSet) (media : MediaType)

theorem entriesFor_sources_removeSources :
    (member.removeSources sources).2.own.sources.entriesFor media =
      (member.own.sources.entriesFor media).filter fun source =>
        !sources.contains media source.ssrc :=
  MediaSet.entriesFor_diff member.own.sources sources media

theorem entriesFor_removeSources :
    (member.removeSources sources).1.entriesFor media =
      (member.own.groups.entriesFor media).filter fun group =>
        ¬ (member.removeSources sources).2.own.sources.Covers media group :=
  GroupSet.entriesFor_uncoveredBy member.own.groups (member.own.sources.diff sources) media

/-- A group that stays is told from one that goes by its value alone, so that none
goes with another. -/
theorem entriesFor_groups_removeSources :
    (member.removeSources sources).2.own.groups.entriesFor media =
      (member.own.groups.entriesFor media).filter fun group =>
        (member.removeSources sources).2.own.sources.Covers media group := by
  have kept : (member.removeSources sources).2.own.groups.entriesFor media =
      (member.own.groups.entriesFor media).filter fun group =>
        !(member.removeSources sources).1.contains media group :=
    MediaSet.entriesFor_diff member.own.groups (member.removeSources sources).1 media
  rw [kept]
  refine List.filter_congr fun group held => ?_
  have dropped : (member.removeSources sources).1.contains media group = true ↔
      ¬ (member.removeSources sources).2.own.sources.Covers media group := by
    rw [MediaSet.contains_iff, entriesFor_removeSources]
    simp [Keyed.key, held]
  rw [Bool.eq_iff_iff, decide_eq_true_eq, Bool.not_eq_true', ← Bool.not_eq_true, dropped, not_not]

theorem covered_removeSources : (member.removeSources sources).2.own.Covered := by
  intro media group held
  rw [entriesFor_groups_removeSources] at held
  exact of_decide_eq_true (List.mem_filter.mp held).2

end RemoveSources

theorem covered_withdraw (member : Participant) (streams : Streams) :
    (member.withdraw streams).2.own.Covered :=
  covered_removeSources _ _

theorem covered_removeGroups (covered : member.own.Covered) (groups : GroupSet) :
    (member.removeGroups groups).own.Covered := by
  intro media group held
  have kept : (member.removeGroups groups).own.groups.entriesFor media =
      (member.own.groups.entriesFor media).filter fun group => !groups.contains media group :=
    MediaSet.entriesFor_diff member.own.groups groups media
  rw [kept] at held
  exact covered media group (List.mem_filter.mp held).1

theorem covered_addStreams (covered : member.own.Covered) {streams : Streams}
    (grounded : streams.GroundedIn member.own) : (member.addStreams streams).own.Covered := by
  refine covered.union grounded (fun _ => List.Subset.refl _) fun media ssrc came => .inr ?_
  exact (streams.contains_withOwner member.owner media ssrc).trans came

/-- What of an answer is held already is not taken in again. -/
theorem covered_importAnswer (covered : member.own.Covered) {contents : List MediaContent}
    (grounded : (Streams.ofContents contents).GroundedIn member.own) :
    (member.importAnswer contents).2.own.Covered := by
  let stamped := (Streams.ofContents contents).withOwner member.owner
  change (member.own.union (stamped.diff member.own)).Covered
  refine covered.union grounded (fun media group new => ?_) fun media ssrc came => ?_
  · rw [Streams.diff, MediaSet.entriesFor_diff] at new
    exact (List.mem_filter.mp new).1
  · rw [Streams.diff, MediaSet.contains_diff, Streams.contains_withOwner, came]
    cases member.own.sources.contains media ssrc <;> simp

theorem covered_changeOwn (covered : member.own.Covered) {change : OwnChange}
    (grounded : change.brought.GroundedIn member.own) :
    (member.changeOwn change).own.Covered := by
  cases change with
  | importAnswer contents => exact covered_importAnswer covered grounded
  | addStreams streams => exact covered_addStreams covered grounded
  | removeSources sources => exact member.covered_removeSources sources
  | removeGroups groups => exact covered_removeGroups covered groups

end Participant

/-- A call on a roster, or a change that one of its members makes to its own streams
without the others being told. -/
inductive RosterMove where
  | call (call : RosterCall)
  | own (endpoint : EndpointId) (change : OwnChange)

/-- The groups that a move takes in are grounded where they arrive. -/
def RosterMove.Grounded (roster : Roster) : RosterMove → Prop
  | .call (.add member) => member.own.Covered
  | .call (.announce endpoint streams) =>
      ∀ member ∈ roster.members, member.endpoint = endpoint → streams.GroundedIn member.own
  | .own endpoint change =>
      ∀ member ∈ roster.members, member.endpoint = endpoint →
        change.brought.GroundedIn member.own
  | .call (.retract ..) | .call (.remove _) | .call (.establish ..) | .call (.dropSession _) =>
      True

instance (roster : Roster) (move : RosterMove) : Decidable (move.Grounded roster) :=
  match move with
  | .call (.add _) => inferInstanceAs (Decidable (Streams.Covered _))
  | .call (.announce ..) | .own .. =>
      inferInstanceAs (Decidable (∀ member ∈ roster.members, member.endpoint = _ → _))
  | .call (.retract ..) | .call (.remove _) | .call (.establish ..) | .call (.dropSession _) =>
      isTrue trivial

namespace Roster

def changeOwn (roster : Roster) (endpoint : EndpointId) (change : OwnChange) :
    Except RosterError Roster := do
  let member ← roster.get endpoint
  return roster.replace (member.changeOwn change)

/-- The roster after a move; one that fails changes nothing. -/
def move (roster : Roster) : RosterMove → Roster
  | .call call =>
      match roster.handle call with
      | .ok (_, next) => next
      | .error _ => roster
  | .own endpoint change =>
      match roster.changeOwn endpoint change with
      | .ok next => next
      | .error _ => roster

/-- All members hold the sources of the groups that they hold. -/
def Covered (roster : Roster) : Prop :=
  ∀ member ∈ roster.members, member.own.Covered

variable {roster : Roster}

/-- The streams a member can have after a move: those of a member before it, or what the
move has made of them. -/
inductive Holding (roster : Roster) : RosterMove → Streams → Prop where
  | kept {move : RosterMove} (member : Participant) (present : member ∈ roster.members) :
      Holding roster move member.own
  | joined (member : Participant) : Holding roster (.call (.add member)) member.own
  | announced (member : Participant) (present : member ∈ roster.members) (streams : Streams) :
      Holding roster (.call (.announce member.endpoint streams))
        (member.addStreams (streams.withOwner member.owner)).own
  | retracted (member : Participant) (present : member ∈ roster.members) (streams : Streams) :
      Holding roster (.call (.retract member.endpoint streams)) (member.withdraw streams).2.own
  | changed (member : Participant) (present : member ∈ roster.members) (change : OwnChange) :
      Holding roster (.own member.endpoint change) (member.changeOwn change).own

theorem Holding.of_mem_replace {move : RosterMove} {changed member : Participant}
    (right : Holding roster move changed.own)
    (present : member ∈ (roster.replace changed).members) :
    Holding roster move member.own := by
  rcases mem_replace.mp present with ⟨other, _⟩ | ⟨rfl, _⟩
  · exact .kept member other
  · exact right

/-- Being told of a change of another member changes nothing of one's own. -/
theorem exists_of_mem_route {origin : EndpointId} {kind : ChangeKind} {streams : Streams}
    {member : Participant} (present : member ∈ (roster.route origin kind streams).2.members) :
    ∃ former ∈ roster.members, member.own = former.own := by
  rw [members_route] at present
  obtain ⟨former, formerly, rfl⟩ := List.mem_map.mp present
  exact ⟨former, formerly, own_reached _ _ _ former⟩

theorem Holding.of_handled {call : RosterCall} {result : List SourceUpdate × Roster}
    (handled : Handled roster call result) {member : Participant}
    (present : member ∈ result.2.members) : Holding roster (.call call) member.own := by
  cases handled with
  | add joined free =>
      rcases List.mem_append.mp present with old | new
      · exact .kept member old
      · rw [List.mem_singleton.mp new]
        exact .joined joined
  | announce origin originPresent streams =>
      obtain ⟨former, formerly, same⟩ := exists_of_mem_route present
      rw [same]
      exact .of_mem_replace (.announced origin originPresent streams) formerly
  | retract origin originPresent streams =>
      obtain ⟨former, formerly, same⟩ := exists_of_mem_route present
      rw [same]
      exact .of_mem_replace (.retracted origin originPresent streams) formerly
  | remove origin originPresent =>
      obtain ⟨former, formerly, same⟩ := exists_of_mem_route present
      rw [same]
      exact .kept former (List.mem_of_mem_filter formerly)
  | establish origin originPresent session =>
      obtain ⟨_, sameOwn, _⟩ := origin.flush_spec session
      exact .of_mem_replace (sameOwn ▸ .kept origin originPresent) present
  | dropSession origin originPresent =>
      have kept : Holding roster (.call (.dropSession origin.endpoint))
          { origin with session := none }.own := .kept origin originPresent
      exact kept.of_mem_replace present

theorem holding_of_mem_move {move : RosterMove} {member : Participant}
    (present : member ∈ (roster.move move).members) : Holding roster move member.own := by
  cases move with
  | call call =>
      simp only [Roster.move] at present
      cases outcome : roster.handle call with
      | error cause =>
          rw [outcome] at present
          exact .kept member present
      | ok result =>
          rw [outcome] at present
          exact .of_handled (handled_of_handle outcome) present
  | own endpoint change =>
      simp only [Roster.move] at present
      cases outcome : roster.changeOwn endpoint change with
      | error cause =>
          rw [outcome] at present
          exact .kept member present
      | ok next =>
          rw [outcome] at present
          obtain ⟨origin, originPresent, rfl, made⟩ := get_bind_eq_ok outcome
          cases made
          exact .of_mem_replace (.changed origin originPresent change) present

theorem Covered.move (covered : roster.Covered) {move : RosterMove}
    (grounded : move.Grounded roster) : (roster.move move).Covered := by
  intro member present
  generalize held : member.own = own
  cases held ▸ holding_of_mem_move present with
  | kept former formerly => exact covered former formerly
  | joined joined => exact grounded
  | announced origin originPresent streams =>
      refine Participant.covered_addStreams (covered origin originPresent) ?_
      intro media group named ssrc listed
      rw [Streams.contains_withOwner]
      exact grounded origin originPresent rfl media group named ssrc listed
  | retracted origin originPresent streams => exact origin.covered_withdraw streams
  | changed origin originPresent change =>
      exact Participant.covered_changeOwn (covered origin originPresent)
        (grounded origin originPresent rfl)

theorem covered_streamsExcept (covered : roster.Covered) (endpoint : EndpointId) :
    (roster.streamsExcept endpoint).Covered := by
  refine Streams.Covered.foldl_union Streams.covered_empty fun streams listed => ?_
  obtain ⟨member, other, rfl⟩ := List.mem_map.mp listed
  exact covered member (List.mem_of_mem_filter other)

/-- To remove sources takes away exactly the groups that are not covered without them,
and keeps the others in their order, whatever the member held.  A member that takes in
grounded groups only, by itself or in a roster, never holds a group without all of its
sources, and neither do all members but one together. -/
theorem groups_follow_sources :
    (∀ (member : Participant) (sources : SourceSet),
        let dropped := (member.removeSources sources).1
        let left := (member.removeSources sources).2.own
        left.Covered ∧ ∀ media,
          left.sources.entriesFor media =
              (member.own.sources.entriesFor media).filter
                (!sources.contains media ·.ssrc) ∧
            dropped.entriesFor media =
              (member.own.groups.entriesFor media).filter (¬ left.sources.Covers media ·) ∧
            left.groups.entriesFor media =
              (member.own.groups.entriesFor media).filter (left.sources.Covers media ·)) ∧
      (∀ (endpoint : EndpointId) (owner : String) (changes : List OwnChange),
        let start : Participant := { endpoint, owner }
        Permits Participant.changeOwn (fun member change => change.brought.GroundedIn member.own)
            start changes →
          (changes.foldl Participant.changeOwn start).own.Covered) ∧
      ∀ moves : List RosterMove,
        Permits Roster.move (fun roster move => move.Grounded roster) {} moves →
          let roster := moves.foldl Roster.move {}
          (∀ member ∈ roster.members, member.own.Covered) ∧
            ∀ endpoint, (roster.streamsExcept endpoint).Covered := by
  refine ⟨fun member sources => ⟨member.covered_removeSources sources, fun media => ?_⟩, ?_, ?_⟩
  · exact ⟨member.entriesFor_sources_removeSources sources media,
      member.entriesFor_removeSources sources media,
      member.entriesFor_groups_removeSources sources media⟩
  · intro endpoint owner changes start permits
    refine permits.foldl_induction (·.own.Covered) Streams.covered_empty ?_
    exact fun member change grounded covered => Participant.covered_changeOwn covered grounded
  · intro moves permits
    have covered := permits.foldl_induction Roster.Covered (fun _ present => nomatch present)
      fun roster move grounded covered => covered.move grounded
    exact ⟨covered, covered_streamsExcept covered⟩

open Simulation in
/-- The SSRC of a retracted simulcast layer is still held under another medium: the group
of the layers goes all the same, and a pair that came later stays. -/
theorem groups_follow_sources_of_lost_layer :
    let pair : SourceGroup := { semantics := .flowIdentification, ssrcs := [⟨3⟩, ⟨1⟩] }
    let repair : Streams :=
      { sources := Sample.sourceSet .video [3], groups := MediaSet.ofList [(.video, pair)] }
    let changes : List OwnChange :=
      [.importAnswer [Sample.simulcastVideoContent [1, 2]], .addStreams repair,
        .removeSources (Sample.sourceSet .video [3])]
    let moves : List RosterMove :=
      [.call (.add (Sample.participant "alice")), .call (.add (Sample.participant "bob")),
        .own ⟨"alice"⟩ (.importAnswer [Sample.simulcastVideoContent [1, 2]]),
        .own ⟨"alice"⟩ (.addStreams { sources := Sample.sourceSet .audio [2] }),
        .call (.announce ⟨"alice"⟩ repair),
        .call (.retract ⟨"alice"⟩ { sources := Sample.sourceSet .video [2] })]
    let alone := changes.foldl Participant.changeOwn { endpoint := ⟨"alice"⟩, owner := "alice" }
    let roster := moves.foldl Roster.move {}
    alone.own.groups.entriesFor .video = [Sample.simulcast [1, 2]] ∧ alone.own.Covered ∧
      (roster.streamsExcept ⟨"bob"⟩).groups.entriesFor .video = [pair] ∧
      (roster.streamsExcept ⟨"bob"⟩).Covered := by
  intro pair repair changes moves alone roster
  obtain ⟨_, direct, joint⟩ := groups_follow_sources
  have permitted : Permits Roster.move (fun roster move => move.Grounded roster) {} moves := by
    decide
  obtain ⟨_, together⟩ := joint moves permitted
  exact ⟨by decide, direct _ _ changes (by decide), by decide, together ⟨"bob"⟩⟩

end Roster

end ConferenceFocus
