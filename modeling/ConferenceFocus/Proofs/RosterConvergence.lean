import ConferenceFocus.Proofs.RosterChanges
import ConferenceFocus.Simulation.Sample

/-!
# Convergence of the roster

Where nothing is announced that somebody holds already, the peer of a member
ends up with the streams of all others: what it has heard, with what waits to be
added and without what waits to be removed, is what the others hold at every
moment of a run.

The invariant is `Settled`.  Cancelling an entry of one queue against an entry
of the other is right because everything that waits to be added is news to the
peer, and everything that waits to be removed it has heard of.
-/

namespace ConferenceFocus

/-- A change fits what is held if it adds only what is new, or removes only what is there. -/
def ChangeKind.Fits : ChangeKind → Set StreamItem → Set StreamItem → Prop
  | .add, held, change => ∀ item ∈ change, item ∉ held
  | .remove, held, change => change ⊆ held

/-- How a member and its peer stand to what the other members hold. -/
structure Settled (heard : Set StreamItem) (member : Participant)
    (elsewhere : Set StreamItem) : Prop where
  /-- What waits to be added is news to the peer. -/
  unheard : ∀ item ∈ member.pendingAdd.items, item ∉ heard
  /-- What waits to be removed the peer has heard of. -/
  known : ∀ item ∈ member.pendingRemove.items, item ∈ heard
  /-- Once the queues are flushed, the peer has heard of what the others hold. -/
  converges : (heard ∪ member.pendingAdd.items) \ member.pendingRemove.items = elsewhere
  /-- Nothing waits for a member that can be told. -/
  idle : member.hasSession = true →
    member.pendingAdd.items = ∅ ∧ member.pendingRemove.items = ∅

namespace Settled

variable {heard elsewhere : Set StreamItem} {member : Participant}

theorem mem_iff (settled : Settled heard member elsewhere) (item : StreamItem) :
    item ∈ elsewhere ↔ (item ∈ heard ∨ item ∈ member.pendingAdd.items) ∧
      item ∉ member.pendingRemove.items := by
  rw [← settled.converges]
  exact Iff.rfl

theorem of_joined (noAdd : member.pendingAdd.items = ∅)
    (noRemove : member.pendingRemove.items = ∅) : Settled elsewhere member elsewhere where
  unheard := by simp [noAdd]
  known := by simp [noRemove]
  converges := by simp [noAdd, noRemove]
  idle := fun _ => ⟨noAdd, noRemove⟩

theorem schedule_add (settled : Settled heard member elsewhere) {streams : Streams}
    (unconnected : member.hasSession = false)
    (fresh : ∀ item ∈ streams.items, item ∉ elsewhere) :
    Settled heard (member.scheduleAdd streams) (elsewhere ∪ streams.items) := by
  have unqueued : ∀ item ∈ streams.items, item ∈ heard →
      item ∈ member.pendingRemove.items := by
    intro item announced known
    by_contra absent
    exact fresh item announced ((settled.mem_iff item).mpr ⟨.inl known, absent⟩)
  constructor
  · intro item queued known
    rcases (Participant.items_pendingAdd_scheduleAdd member streams ▸ queued) with
      old | ⟨announced, kept⟩
    · exact settled.unheard item old known
    · exact kept (unqueued item announced known)
  · intro item queued
    exact settled.known item
      (Participant.items_pendingRemove_scheduleAdd member streams ▸ queued).1
  · ext item
    have known := settled.known item
    have unqueued := unqueued item
    simp only [Participant.items_pendingAdd_scheduleAdd,
      Participant.items_pendingRemove_scheduleAdd, Set.mem_sdiff, Set.mem_union,
      settled.mem_iff item]
    tauto
  · intro connected
    cases unconnected.symm.trans connected

theorem schedule_remove (settled : Settled heard member elsewhere) {streams : Streams}
    (unconnected : member.hasSession = false) (held : streams.items ⊆ elsewhere) :
    Settled heard (member.scheduleRemove streams) (elsewhere \ streams.items) := by
  have awaited : ∀ item ∈ streams.items, (item ∈ heard ∨ item ∈ member.pendingAdd.items) ∧
      item ∉ member.pendingRemove.items :=
    fun item gone => (settled.mem_iff item).mp (held gone)
  constructor
  · intro item queued
    exact settled.unheard item
      (Participant.items_pendingAdd_scheduleRemove member streams ▸ queued).1
  · intro item queued
    rcases (Participant.items_pendingRemove_scheduleRemove member streams ▸ queued) with
      old | ⟨gone, kept⟩
    · exact settled.known item old
    · exact (awaited item gone).1.resolve_right kept
  · ext item
    have unheard := settled.unheard item
    have awaited := awaited item
    simp only [Participant.items_pendingAdd_scheduleRemove,
      Participant.items_pendingRemove_scheduleRemove, Set.mem_sdiff, Set.mem_union,
      settled.mem_iff item]
    tauto
  · intro connected
    cases unconnected.symm.trans connected

/-- A fitting change made by another member is heard of at once or waits. -/
theorem reached (settled : Settled heard member elsewhere) {origin : EndpointId}
    (different : member.endpoint ≠ origin) {kind : ChangeKind} {streams : Streams}
    (fits : kind.Fits elsewhere streams.items) :
    Settled
      (if member.endpoint ≠ origin ∧ member.hasSession then kind.on heard streams.items else heard)
      (member.reached origin kind streams) (kind.on elsewhere streams.items) := by
  by_cases empty : streams.isEmpty = true
  · have nothing := Streams.isEmpty_iff_items.mp empty
    simpa [Participant.reached, empty, nothing, ChangeKind.on_empty] using settled
  cases session : member.hasSession with
  | true =>
      obtain ⟨noAdd, noRemove⟩ := settled.idle session
      have heardAll : heard = elsewhere := by
        simpa [noAdd, noRemove] using settled.converges
      simpa [Participant.reached, Participant.park, empty, different, session, heardAll]
        using of_joined noAdd noRemove
  | false =>
      have scheduled : Settled heard (member.schedule kind streams)
          (kind.on elsewhere streams.items) := by
        cases kind with
        | add => exact settled.schedule_add session fits
        | remove => exact settled.schedule_remove session fits
      simpa [Participant.reached, Participant.park, empty, different, session] using scheduled

/-- How a member stands to the others does not depend on what it holds itself. -/
theorem of_queues (settled : Settled heard member elsewhere) {changed : Participant}
    (sameAdd : changed.pendingAdd = member.pendingAdd)
    (sameRemove : changed.pendingRemove = member.pendingRemove)
    (sameSession : changed.session = member.session) :
    Settled heard changed elsewhere where
  unheard := sameAdd ▸ settled.unheard
  known := sameRemove ▸ settled.known
  converges := sameAdd ▸ sameRemove ▸ settled.converges
  idle := by
    rw [Participant.hasSession, sameSession, sameAdd, sameRemove]
    exact settled.idle

end Settled

namespace Roster

def Apart (roster : Roster) : Prop :=
  ∀ item left right, item ∈ roster.held left → item ∈ roster.held right → left = right

theorem heldElsewhere_of_shrunk {roster next : Roster} (apart : roster.Apart)
    {origin : EndpointId} {items : Set StreamItem} (given : items ⊆ roster.held origin)
    (shrunk : next.held = Function.update roster.held origin (roster.held origin \ items))
    {endpoint : EndpointId} (different : endpoint ≠ origin) :
    next.heldElsewhere endpoint = roster.heldElsewhere endpoint \ items := by
  ext item
  rw [Set.mem_sdiff]
  exact mem_heldElsewhere_of_shrunk (fun other => apart item other origin) given shrunk different

theorem Apart.of_grown {roster next : Roster} (apart : roster.Apart) {origin : EndpointId}
    {items : Set StreamItem} (fresh : ∀ item ∈ items, ∀ endpoint, item ∉ roster.held endpoint)
    (grown : next.held = Function.update roster.held origin (roster.held origin ∪ items)) :
    next.Apart := by
  have before {item : StreamItem} {endpoint : EndpointId} (found : item ∈ next.held endpoint) :
      item ∈ roster.held endpoint ∨ (item ∈ items ∧ endpoint = origin) := by
    rw [grown] at found
    by_cases own : endpoint = origin
    · subst own
      rw [Function.update_self] at found
      exact found.imp_right fun new => ⟨new, rfl⟩
    · exact .inl (by rwa [Function.update_of_ne own] at found)
  intro item left right leftHeld rightHeld
  rcases before leftHeld with leftOld | ⟨leftNew, rfl⟩ <;>
    rcases before rightHeld with rightOld | ⟨rightNew, rfl⟩
  · exact apart item left right leftOld rightOld
  · exact absurd leftOld (fresh item rightNew left)
  · exact absurd rightOld (fresh item leftNew right)
  · rfl

theorem Apart.of_shrunk {roster next : Roster} (apart : roster.Apart) {origin : EndpointId}
    {items : Set StreamItem}
    (shrunk : next.held = Function.update roster.held origin (roster.held origin \ items)) :
    next.Apart := by
  have before {item : StreamItem} {endpoint : EndpointId} (found : item ∈ next.held endpoint) :
      item ∈ roster.held endpoint := by
    rw [shrunk] at found
    by_cases own : endpoint = origin
    · subst own
      rw [Function.update_self] at found
      exact found.1
    · rwa [Function.update_of_ne own] at found
  exact fun item left right leftHeld rightHeld =>
    apart item left right (before leftHeld) (before rightHeld)

end Roster

namespace Signaling

/-- What holds at every moment of a run in which every announcement is fresh. -/
structure Consistent (signaling : Signaling) : Prop where
  distinct : signaling.roster.Distinct
  apart : signaling.roster.Apart
  settled : ∀ member ∈ signaling.roster.members,
    Settled (signaling.heard member.endpoint) member
      (signaling.roster.heldElsewhere member.endpoint)

/-- The calls of runs in which members join bare and announce only what nobody
holds, themselves included. -/
def Fresh (roster : Roster) : RosterCall → Prop
  | .add member =>
      member.session = none ∧ member.own = ∅ ∧ member.pendingAdd = ∅ ∧ member.pendingRemove = ∅
  | .announce _ streams => ∀ member ∈ roster.members, Disjoint streams.items member.own.items
  | _ => True

instance (roster : Roster) (call : RosterCall) : Decidable (Fresh roster call) :=
  match call with
  | .add _ => inferInstanceAs (Decidable (_ ∧ _))
  | .announce _ streams =>
      decidable_of_iff (∀ member ∈ roster.members, (streams.inter member.own).isEmpty = true)
        (by simp only [Fresh, Streams.disjoint_items_iff])
  | .retract _ _ | .remove _ | .establish _ _ | .dropSession _ => isTrue trivial

variable {signaling : Signaling}

theorem consistent_start : Consistent {} where
  distinct := List.nodup_nil
  apart := fun _ _ _ ⟨_, present, _⟩ => nomatch present
  settled := fun _ present => nomatch present

/-- A change is routed through a roster that its maker has already been changed
in: what is left to show is what becomes of each member. -/
theorem consistent_route {base : Roster} {origin : EndpointId} {kind : ChangeKind}
    {streams : Streams} {heard : EndpointId → Set StreamItem}
    (distinct : base.Distinct) (apart : base.Apart)
    (settled : ∀ member ∈ base.members,
      Settled
        (if member.endpoint ≠ origin ∧ member.hasSession then
          kind.on (heard member.endpoint) streams.items else heard member.endpoint)
        (member.reached origin kind streams) (base.heldElsewhere member.endpoint)) :
    Consistent
      { roster := (base.route origin kind streams).2,
        heard := (base.route origin kind streams).1.foldl deliver heard } where
  distinct := Roster.distinct_route base origin kind streams distinct
  apart := by
    intro item left right
    rw [Roster.held_route]
    exact apart item left right
  settled := by
    intro member present
    rw [Roster.members_route, List.mem_map] at present
    obtain ⟨before, beforePresent, rfl⟩ := present
    dsimp only
    rw [Roster.endpoint_reached, Roster.deliver_route _ _ _ _ distinct beforePresent,
      Roster.heldElsewhere_route]
    exact settled before beforePresent

theorem consistent_announce (consistent : Consistent signaling) {member : Participant}
    (present : member ∈ signaling.roster.members) {streams : Streams}
    (fresh : ∀ other ∈ signaling.roster.members, Disjoint streams.items other.own.items) :
    let stamped := streams.withOwner member.owner
    let result := (signaling.roster.replace (member.addStreams stamped)).route
      member.endpoint .add stamped
    Consistent { roster := result.2, heard := result.1.foldl deliver signaling.heard } := by
  intro stamped result
  let base := signaling.roster.replace (member.addStreams stamped)
  have unheld : ∀ item ∈ stamped.items, ∀ endpoint,
      item ∉ signaling.roster.held endpoint := by
    intro item announced endpoint found
    obtain ⟨other, otherPresent, _, held⟩ := found
    rw [Streams.items_withOwner] at announced
    exact Set.disjoint_left.mp (fresh other otherPresent) announced held
  have grown : base.held = Function.update signaling.roster.held member.endpoint
      (signaling.roster.held member.endpoint ∪ stamped.items) := by
    rw [Roster.held_replace present (member.addStreams stamped) rfl,
      consistent.distinct.held_eq present, Participant.items_own_addStreams]
    rfl
  refine consistent_route (Roster.distinct_replace consistent.distinct _)
    (consistent.apart.of_grown unheld grown) fun other otherPresent => ?_
  rcases Roster.mem_replace.mp otherPresent with ⟨old, different⟩ | ⟨rfl, _⟩
  · rw [Roster.heldElsewhere_of_grown grown different]
    refine (consistent.settled other old).reached different ?_
    intro item announced found
    obtain ⟨holder, _, held⟩ := found
    exact unheld item announced holder held
  · have own : (member.addStreams stamped).endpoint = member.endpoint := rfl
    have kept : (member.addStreams stamped).reached member.endpoint .add stamped =
        member.addStreams stamped := if_pos (.inl own)
    rw [kept, own, if_neg (fun told => told.1 rfl), Roster.heldElsewhere_update_self grown]
    exact (consistent.settled member present).of_queues rfl rfl rfl

theorem consistent_retract (consistent : Consistent signaling) {member : Participant}
    (present : member ∈ signaling.roster.members) (streams : Streams) :
    let gone := (member.withdraw streams).1
    let result := (signaling.roster.replace (member.withdraw streams).2).route
      member.endpoint .remove gone
    Consistent { roster := result.2, heard := result.1.foldl deliver signaling.heard } := by
  intro gone result
  let base := signaling.roster.replace (member.withdraw streams).2
  obtain ⟨owned, left⟩ := member.items_withdraw streams
  have given : gone.items ⊆ signaling.roster.held member.endpoint := by
    rwa [consistent.distinct.held_eq present]
  have shrunk : base.held = Function.update signaling.roster.held member.endpoint
      (signaling.roster.held member.endpoint \ gone.items) := by
    rw [Roster.held_replace present (member.withdraw streams).2 rfl,
      consistent.distinct.held_eq present, left]
    rfl
  refine consistent_route (Roster.distinct_replace consistent.distinct _)
    (consistent.apart.of_shrunk shrunk) fun other otherPresent => ?_
  rcases Roster.mem_replace.mp otherPresent with ⟨old, different⟩ | ⟨rfl, _⟩
  · rw [Roster.heldElsewhere_of_shrunk consistent.apart given shrunk different]
    exact (consistent.settled other old).reached different
      fun item found => ⟨member.endpoint, Ne.symm different, given found⟩
  · have own : (member.withdraw streams).2.endpoint = member.endpoint := rfl
    have kept : (member.withdraw streams).2.reached member.endpoint .remove gone =
        (member.withdraw streams).2 := if_pos (.inl own)
    rw [kept, own, if_neg (fun told => told.1 rfl), Roster.heldElsewhere_update_self shrunk]
    exact (consistent.settled member present).of_queues rfl rfl rfl

theorem consistent_remove (consistent : Consistent signaling) {member : Participant}
    (present : member ∈ signaling.roster.members) :
    let result := (signaling.roster.without member.endpoint).route
      member.endpoint .remove member.own
    Consistent { roster := result.2, heard := result.1.foldl deliver signaling.heard } := by
  intro result
  let base := signaling.roster.without member.endpoint
  have owned := consistent.distinct.held_eq present
  have shrunk : base.held = Function.update signaling.roster.held member.endpoint
      (signaling.roster.held member.endpoint \ member.own.items) := by
    rw [owned, sdiff_self]
    exact Roster.held_without member.endpoint
  refine consistent_route (Roster.distinct_without consistent.distinct _)
    (consistent.apart.of_shrunk shrunk) fun other otherPresent => ?_
  obtain ⟨old, different⟩ : other ∈ signaling.roster.members ∧
      other.endpoint ≠ member.endpoint := by
    simpa [base, Roster.without] using otherPresent
  rw [Roster.heldElsewhere_of_shrunk consistent.apart owned.ge shrunk different]
  exact (consistent.settled other old).reached different
    fun item found => ⟨member.endpoint, Ne.symm different, owned.ge found⟩

theorem consistent_add (consistent : Consistent signaling) {member : Participant}
    (free : ∀ other ∈ signaling.roster.members, other.endpoint ≠ member.endpoint)
    (bare : Fresh signaling.roster (.add member)) :
    Consistent
      { roster := ⟨signaling.roster.members ++ [member]⟩,
        heard := signaling.welcome (.add member) } := by
  obtain ⟨_, noStreams, noAdd, noRemove⟩ := bare
  have held : (⟨signaling.roster.members ++ [member]⟩ : Roster).held = signaling.roster.held :=
    Roster.held_append (by rw [noStreams, Streams.items_empty])
  have elsewhere (endpoint : EndpointId) :
      (⟨signaling.roster.members ++ [member]⟩ : Roster).heldElsewhere endpoint =
        signaling.roster.heldElsewhere endpoint := by
    rw [Roster.heldElsewhere, held]
    rfl
  refine ⟨Roster.distinct_append consistent.distinct free, ?_, ?_⟩
  · intro item left right
    rw [held]
    exact consistent.apart item left right
  · intro other present
    rw [elsewhere]
    dsimp only [welcome]
    rcases List.mem_append.mp present with old | new
    · rw [Function.update_of_ne (free other old)]
      exact consistent.settled other old
    · rw [List.mem_singleton.mp new, Function.update_self, Roster.items_streamsExcept]
      exact Settled.of_joined (by rw [noAdd, Streams.items_empty])
        (by rw [noRemove, Streams.items_empty])

theorem consistent_replace (consistent : Consistent signaling) {member : Participant}
    (present : member ∈ signaling.roster.members) (changed : Participant)
    (sameName : changed.endpoint = member.endpoint)
    (sameOwn : changed.own = member.own) {heard : EndpointId → Set StreamItem}
    (untold : ∀ endpoint, endpoint ≠ member.endpoint →
      heard endpoint = signaling.heard endpoint)
    (settled : Settled (heard member.endpoint) changed
      (signaling.roster.heldElsewhere member.endpoint)) :
    Consistent { roster := signaling.roster.replace changed, heard } := by
  have held : (signaling.roster.replace changed).held = signaling.roster.held := by
    rw [Roster.held_replace present changed sameName, sameOwn, sameName,
      ← consistent.distinct.held_eq present, Function.update_eq_self]
  have elsewhere (endpoint : EndpointId) :
      (signaling.roster.replace changed).heldElsewhere endpoint =
        signaling.roster.heldElsewhere endpoint := by
    rw [Roster.heldElsewhere, held]
    rfl
  refine ⟨Roster.distinct_replace consistent.distinct changed, ?_, ?_⟩
  · intro item left right
    rw [held]
    exact consistent.apart item left right
  · intro other otherPresent
    rw [elsewhere]
    rcases Roster.mem_replace.mp otherPresent with ⟨old, different⟩ | ⟨rfl, _⟩
    · dsimp only
      rw [untold other.endpoint (sameName ▸ different)]
      exact consistent.settled other old
    · rwa [sameName]

theorem consistent_establish (consistent : Consistent signaling) {member : Participant}
    (present : member ∈ signaling.roster.members) (session : SessionHandle) :
    Consistent
      { roster := signaling.roster.replace (member.flush session).2,
        heard := (member.flush session).1.foldl deliver signaling.heard } := by
  obtain ⟨sameName, sameOwn, noAdd, noRemove⟩ := member.flush_spec session
  rw [Participant.deliver_flush]
  refine consistent_replace consistent present _ sameName sameOwn
    (fun endpoint different => Function.update_of_ne different _ _) ?_
  rw [Function.update_self, (consistent.settled member present).converges]
  exact Settled.of_joined noAdd noRemove

theorem consistent_dropSession (consistent : Consistent signaling) {member : Participant}
    (present : member ∈ signaling.roster.members) :
    Consistent
      { roster := signaling.roster.replace { member with session := none },
        heard := signaling.heard } := by
  have settled := consistent.settled member present
  refine consistent_replace consistent present { member with session := none } rfl rfl
    (fun _ _ => rfl) ?_
  exact
    { unheard := settled.unheard
      known := settled.known
      converges := settled.converges
      idle := fun connected => absurd connected Bool.false_ne_true }

theorem consistent_step (consistent : Consistent signaling) {call : RosterCall}
    (fresh : Fresh signaling.roster call) : Consistent (signaling.step call) := by
  unfold step
  cases outcome : signaling.roster.handle call with
  | error cause => exact consistent
  | ok result =>
      cases Roster.handled_of_handle outcome with
      | add member free => exact consistent_add consistent free fresh
      | announce member present streams => exact consistent_announce consistent present fresh
      | retract member present streams => exact consistent_retract consistent present streams
      | remove member present => exact consistent_remove consistent present
      | establish member present session => exact consistent_establish consistent present session
      | dropSession member present => exact consistent_dropSession consistent present

theorem consistent_of_reachable (reachable : Reachable Fresh signaling) :
    Consistent signaling := by
  induction reachable with
  | start => exact consistent_start
  | step _ call allowed consistent => exact consistent_step consistent allowed

/-- Where members join bare and announce only what nobody holds, every peer has
heard, up to what waits for it, of the streams of all others; the peer of a
member with a session has heard of exactly these. -/
theorem peers_converge (reachable : Reachable Fresh signaling) {member : Participant}
    (present : member ∈ signaling.roster.members) :
    (signaling.heard member.endpoint ∪ member.pendingAdd.items) \ member.pendingRemove.items =
        (signaling.roster.streamsExcept member.endpoint).items ∧
      (member.hasSession = true →
        member.pendingAdd.isEmpty = true ∧ member.pendingRemove.isEmpty = true ∧
          signaling.heard member.endpoint =
            (signaling.roster.streamsExcept member.endpoint).items) := by
  have settled := (consistent_of_reachable reachable).settled member present
  rw [Roster.items_streamsExcept]
  refine ⟨settled.converges, fun connected => ?_⟩
  obtain ⟨noAdd, noRemove⟩ := settled.idle connected
  refine ⟨Streams.isEmpty_iff_items.mpr noAdd, Streams.isEmpty_iff_items.mpr noRemove, ?_⟩
  simpa [noAdd, noRemove] using settled.converges

open Simulation in
/-- While a session is down a simulcast layer is retracted, and the group over it
goes with it: both wait to be removed, until the session is back. -/
theorem peers_converge_over_lost_session :
    (∃ signaling, Reachable Fresh signaling ∧ ∃ member ∈ signaling.roster.members,
      member.pendingRemove.isEmpty = false ∧
        (signaling.heard member.endpoint ∪ member.pendingAdd.items) \
            member.pendingRemove.items =
          (signaling.roster.streamsExcept member.endpoint).items) ∧
    ∃ signaling, Reachable Fresh signaling ∧ ∃ member ∈ signaling.roster.members,
      member.hasSession = true ∧
        signaling.heard member.endpoint =
          (signaling.roster.streamsExcept member.endpoint).items := by
  have founded : Reachable Fresh {} := .start
  have joined := (founded.step (.add (Sample.participant "alice")) (by decide)).step
    (.add (Sample.participant "bob")) (by decide)
  have connected := joined.step (.establish ⟨"alice"⟩ ⟨"first"⟩) (by decide)
  have announced := connected.step
    (.announce ⟨"bob"⟩
      { sources := Sample.sourceSet .video [1, 2], groups := Sample.simulcastGroups [1, 2] })
    (by decide)
  have retracted := (announced.step (.dropSession ⟨"alice"⟩) (by decide)).step
    (.retract ⟨"bob"⟩ { sources := Sample.sourceSet .video [2] }) (by decide)
  have restored := retracted.step (.establish ⟨"alice"⟩ ⟨"second"⟩) (by decide)
  constructor
  · exact ⟨_, retracted, _, List.head_mem (by decide), by decide,
      (peers_converge retracted (List.head_mem _)).1⟩
  · exact ⟨_, restored, _, List.head_mem (by decide), by decide,
      ((peers_converge restored (List.head_mem _)).2 (by decide)).2.2⟩

end Signaling

end ConferenceFocus
