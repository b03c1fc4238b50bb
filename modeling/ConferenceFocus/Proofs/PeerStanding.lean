import ConferenceFocus.Proofs.RosterRuns

/-!
# How a member stands to a source

The peer of a member, its queues and what the others hold, as far as one item is
concerned.  A call changes these in four ways only; as long as nobody else holds
the item too, they decide what becomes of it.
-/

namespace ConferenceFocus

/-- What the peer of a member has heard, the member itself, and what the others hold. -/
structure Standing where
  heard : Set StreamItem
  member : Participant
  elsewhere : Set StreamItem

namespace Standing

/-- What a call can do to how a member stands to an item. -/
inductive Moves (item : StreamItem) (before after : Standing) : Prop where
  /-- The member is neither told nor sent anything, though somebody may have joined. -/
  | kept (heard : after.heard = before.heard)
      (pendingAdd : after.member.pendingAdd = before.member.pendingAdd)
      (pendingRemove : after.member.pendingRemove = before.member.pendingRemove)
      (session : after.member.hasSession = true → before.member.hasSession = true)
      (elsewhere : item ∈ before.elsewhere → item ∈ after.elsewhere)
  /-- Another member has made a change, and the peer is told. -/
  | told (kind : ChangeKind) (streams : Streams)
      (connected : before.member.hasSession = true) (member : after.member = before.member)
      (heard : after.heard = kind.on before.heard streams.items)
      (elsewhere : item ∈ after.elsewhere ↔ item ∈ kind.on before.elsewhere streams.items)
      (owned : kind = .remove → item ∈ streams.items → item ∈ before.elsewhere)
  /-- Another member has made a change, which waits for a session. -/
  | parked (kind : ChangeKind) (streams : Streams)
      (unconnected : after.member.hasSession = false) (heard : after.heard = before.heard)
      (queues : ∀ other, (after.member.pending other).items =
        ((before.member.schedule kind streams).pending other).items)
      (elsewhere : item ∈ after.elsewhere ↔ item ∈ kind.on before.elsewhere streams.items)
      (owned : kind = .remove → item ∈ streams.items → item ∈ before.elsewhere)
  | flushed (heard : after.heard = (before.heard ∪ before.member.pendingAdd.items) \
        before.member.pendingRemove.items)
      (noAdd : after.member.pendingAdd.items = ∅)
      (noRemove : after.member.pendingRemove.items = ∅)
      (elsewhere : after.elsewhere = before.elsewhere)

/-- What holds of an item as long as only one member holds it at a time. -/
structure Sound (standing : Standing) (item : StreamItem) : Prop where
  idle : standing.member.hasSession = true →
    item ∉ standing.member.pendingAdd.items ∧ item ∉ standing.member.pendingRemove.items
  single : item ∈ standing.member.pendingAdd.items → item ∉ standing.member.pendingRemove.items
  /-- What waits to be added is held. -/
  offered : item ∈ standing.member.pendingAdd.items → item ∈ standing.elsewhere

/-- The peer has heard of an item that no other member holds, and will not be
told that it is gone. -/
def Stale (standing : Standing) (item : StreamItem) : Prop :=
  item ∈ standing.heard ∧ item ∉ standing.member.pendingRemove.items ∧
    item ∉ standing.elsewhere

/-- An item waits to be added that the peer has heard of. -/
def Doubled (standing : Standing) (item : StreamItem) : Prop :=
  item ∈ standing.heard ∧ item ∈ standing.member.pendingAdd.items

variable {item : StreamItem} {before after : Standing}

theorem sound_of_unqueued {standing : Standing}
    (noAdd : standing.member.pendingAdd.items = ∅)
    (noRemove : standing.member.pendingRemove.items = ∅) : standing.Sound item where
  idle := by simp [noAdd, noRemove]
  single := by simp [noAdd]
  offered := by simp [noAdd]

theorem mem_pending_of_parked (item : StreamItem) {kind : ChangeKind} {streams : Streams}
    (queues : ∀ other, (after.member.pending other).items =
      ((before.member.schedule kind streams).pending other).items) :
    (item ∈ (after.member.pending kind).items ↔ item ∈ (before.member.pending kind).items ∨
        item ∈ streams.items ∧ item ∉ (before.member.pending kind.opposite).items) ∧
      (item ∈ (after.member.pending kind.opposite).items ↔
        item ∈ (before.member.pending kind.opposite).items ∧ item ∉ streams.items) := by
  have queued := queues kind
  have cancelled := queues kind.opposite
  rw [Participant.items_pending_schedule] at queued
  rw [Participant.items_pending_opposite_schedule] at cancelled
  exact ⟨Set.ext_iff.mp queued item, Set.ext_iff.mp cancelled item⟩

theorem Moves.sound (moves : Moves item before after) (sound : before.Sound item) :
    after.Sound item := by
  cases moves with
  | kept _ pendingAdd pendingRemove session elsewhere =>
      constructor
      · rw [pendingAdd, pendingRemove]
        exact fun connected => sound.idle (session connected)
      · rw [pendingAdd, pendingRemove]
        exact sound.single
      · rw [pendingAdd]
        exact fun queued => elsewhere (sound.offered queued)
  | told kind streams connected member =>
      obtain ⟨noAdd, noRemove⟩ := sound.idle connected
      constructor
      · rw [member]
        exact sound.idle
      · rw [member]
        exact sound.single
      · rw [member]
        exact fun queued => absurd queued noAdd
  | parked kind streams unconnected _ queues elsewhere owned =>
      have single := sound.single
      have offered := sound.offered
      cases kind with
      | add =>
          obtain ⟨added, removed⟩ := mem_pending_of_parked item queues
          simp only [Participant.pending, ChangeKind.opposite] at added removed
          refine ⟨fun connected => absurd (unconnected.symm.trans connected) Bool.false_ne_true,
            ?_, ?_⟩
          · rw [added, removed]
            grind
          · rw [added, elsewhere, ChangeKind.on, Set.mem_union]
            grind
      | remove =>
          obtain ⟨removed, added⟩ := mem_pending_of_parked item queues
          simp only [Participant.pending, ChangeKind.opposite] at added removed
          refine ⟨fun connected => absurd (unconnected.symm.trans connected) Bool.false_ne_true,
            ?_, ?_⟩
          · rw [added, removed]
            grind
          · rw [added, elsewhere, ChangeKind.on, Set.mem_sdiff]
            grind
  | flushed _ noAdd noRemove => exact sound_of_unqueued noAdd noRemove

/-- A stale item is one that nobody holds any more, and that was stale before or
waited to be added although the peer had heard of it. -/
theorem Moves.stale_iff (moves : Moves item before after) (sound : before.Sound item) :
    after.Stale item ↔
      item ∉ after.elsewhere ∧ (before.Stale item ∨ before.Doubled item) := by
  have single := sound.single
  have offered := sound.offered
  unfold Stale Doubled
  cases moves with
  | kept heard _ pendingRemove _ elsewhere =>
      rw [heard, pendingRemove]
      grind
  | told kind streams connected member heard elsewhere owned =>
      obtain ⟨noAdd, noRemove⟩ := sound.idle connected
      rw [member, heard, elsewhere]
      cases kind with
      | add =>
          rw [ChangeKind.on, ChangeKind.on, Set.mem_union, Set.mem_union]
          grind
      | remove =>
          rw [ChangeKind.on, ChangeKind.on, Set.mem_sdiff, Set.mem_sdiff]
          grind
  | parked kind streams _ heard queues elsewhere owned =>
      rw [heard, elsewhere]
      cases kind with
      | add =>
          have removed := (mem_pending_of_parked item queues).2
          simp only [Participant.pending, ChangeKind.opposite] at removed
          rw [removed, ChangeKind.on, Set.mem_union]
          grind
      | remove =>
          -- Here a removal is lost: it cancels an add of what the peer has heard of already.
          have removed := (mem_pending_of_parked item queues).1
          simp only [Participant.pending, ChangeKind.opposite] at removed
          rw [removed, ChangeKind.on, Set.mem_sdiff]
          grind
  | flushed heard noAdd noRemove elsewhere =>
      rw [heard, elsewhere, noRemove, Set.mem_sdiff, Set.mem_union]
      simp only [Set.mem_empty_iff_false, not_false_eq_true, true_and]
      grind

theorem moves_of_change {origin : EndpointId} {kind : ChangeKind} {streams : Streams}
    (different : before.member.endpoint ≠ origin)
    (member : after.member = before.member.reached origin kind streams)
    (heard : after.heard = if before.member.endpoint ≠ origin ∧ before.member.hasSession = true
      then kind.on before.heard streams.items else before.heard)
    (elsewhere : item ∈ after.elsewhere ↔ item ∈ kind.on before.elsewhere streams.items)
    (owned : kind = .remove → item ∈ streams.items → item ∈ before.elsewhere) :
    Moves item before after := by
  cases session : before.member.hasSession with
  | true =>
      refine .told kind streams session ?_ ?_ elsewhere owned
      · rw [member, Participant.reached_of_hasSession session]
      · rw [heard, if_pos ⟨different, session⟩]
  | false =>
      refine .parked kind streams ?_ ?_ ?_ elsewhere owned
      · rw [member, Participant.hasSession_reached, session]
      · rw [heard, if_neg (by simp [session])]
      · rw [member]
        exact Participant.items_pending_reached different session kind streams

end Standing

namespace Roster

/-- No source of one member is a source of another. -/
def SourcesApart (roster : Roster) : Prop :=
  ∀ left ∈ roster.members, ∀ right ∈ roster.members, left.endpoint ≠ right.endpoint →
    ∀ entry ∈ left.own.sources.toList,
      right.own.sources.contains entry.1 entry.2.ssrc = false

instance (roster : Roster) : Decidable roster.SourcesApart :=
  inferInstanceAs (Decidable (∀ left ∈ roster.members, ∀ right ∈ roster.members,
    left.endpoint ≠ right.endpoint → ∀ entry ∈ left.own.sources.toList,
      right.own.sources.contains entry.1 entry.2.ssrc = false))

theorem SourcesApart.sole {roster : Roster} (apart : roster.SourcesApart) (media : MediaType)
    (ssrc : Ssrc) (left right : EndpointId)
    (leftHeld : .source media ssrc ∈ roster.held left)
    (rightHeld : .source media ssrc ∈ roster.held right) : left = right := by
  obtain ⟨first, firstPresent, rfl, firstOwn⟩ := leftHeld
  obtain ⟨second, secondPresent, rfl, secondOwn⟩ := rightHeld
  obtain ⟨source, listed, rfl⟩ := MediaSet.contains_iff.mp firstOwn
  refine Classical.byContradiction fun different => ?_
  have absent := apart first firstPresent second secondPresent different
    (media, source) (MediaSet.mem_toList.mpr listed)
  exact Bool.false_ne_true (absent.symm.trans secondOwn)

end Roster

namespace Signaling

variable {signaling : Signaling} {item : StreamItem}

def standing (signaling : Signaling) (member : Participant) : Standing where
  heard := signaling.heard member.endpoint
  member := member
  elsewhere := signaling.roster.heldElsewhere member.endpoint

/-- Somebody of the same name was there before, and has moved to where the member stands. -/
def Continues (item : StreamItem) (signaling next : Signaling) (member : Participant) : Prop :=
  ∃ before ∈ signaling.roster.members, before.endpoint = member.endpoint ∧
    Standing.Moves item (signaling.standing before) (next.standing member)

theorem continues_unmoved {member : Participant} (present : member ∈ signaling.roster.members) :
    Continues item signaling signaling member :=
  ⟨member, present, rfl, .kept rfl rfl rfl id id⟩

theorem continues_route {base : Roster} {origin : EndpointId} {kind : ChangeKind}
    {streams : Streams} (revised : Roster.Revised signaling.roster base origin kind streams)
    (sole : ∀ left right, item ∈ signaling.roster.held left →
      item ∈ signaling.roster.held right → left = right) {member : Participant}
    (present : member ∈ (base.route origin kind streams).2.members) :
    Continues item signaling
      { roster := (base.route origin kind streams).2,
        heard := (base.route origin kind streams).1.foldl deliver signaling.heard } member := by
  rw [Roster.members_route, List.mem_map] at present
  obtain ⟨former, formerPresent, rfl⟩ := present
  have named := Roster.endpoint_reached origin kind streams former
  have heard := Roster.deliver_route base origin kind streams revised.distinct formerPresent
    signaling.heard
  by_cases own : former.endpoint = origin
  · obtain ⟨before, beforePresent, inbox⟩ := revised.inbox former formerPresent own
    rw [Participant.reached_origin own] at named ⊢
    refine ⟨before, beforePresent, inbox.endpoint, .kept ?_ inbox.pendingAdd.symm
      inbox.pendingRemove.symm ?_ ?_⟩
    · dsimp only [standing]
      rw [heard, if_neg (fun told => told.1 own), inbox.endpoint]
    · simp [standing, Participant.hasSession, inbox.session]
    · simp only [standing, inbox.endpoint, own, Roster.heldElsewhere_route,
        revised.heldElsewhere_origin, imp_self]
  · have beforePresent := (revised.others former own).mp formerPresent
    refine ⟨former, beforePresent, named.symm,
      Standing.moves_of_change own rfl ?_ ?_ ?_⟩
    · dsimp only [standing]
      rw [named]
      exact heard
    · simp only [standing, named, Roster.heldElsewhere_route]
      exact revised.mem_heldElsewhere sole own
    · rintro rfl gone
      exact ⟨origin, Ne.symm own, revised.owned rfl gone⟩

theorem continues_replace (distinct : signaling.roster.Distinct) {former : Participant}
    (formerPresent : former ∈ signaling.roster.members) (changed : Participant)
    (sameName : changed.endpoint = former.endpoint) (sameOwn : changed.own = former.own)
    {heard : EndpointId → Set StreamItem}
    (untold : ∀ endpoint, endpoint ≠ former.endpoint →
      heard endpoint = signaling.heard endpoint)
    (moves : Standing.Moves item (signaling.standing former)
      ⟨heard former.endpoint, changed, signaling.roster.heldElsewhere former.endpoint⟩)
    {member : Participant} (present : member ∈ (signaling.roster.replace changed).members) :
    Continues item signaling { roster := signaling.roster.replace changed, heard } member := by
  have elsewhere (endpoint : EndpointId) :
      (signaling.roster.replace changed).heldElsewhere endpoint =
        signaling.roster.heldElsewhere endpoint :=
    Roster.heldElsewhere_replace distinct formerPresent sameName sameOwn
  rcases Roster.mem_replace.mp present with ⟨memberPresent, different⟩ | ⟨rfl, _⟩
  · refine ⟨member, memberPresent, rfl, .kept ?_ rfl rfl id ?_⟩
    · exact untold member.endpoint (sameName ▸ different)
    · simp only [standing, elsewhere, imp_self]
  · refine ⟨former, formerPresent, sameName.symm, ?_⟩
    simpa only [standing, sameName, elsewhere] using moves

/-- A member after a call has just joined, having heard of all that others hold,
or was there before. -/
theorem joined_or_continues (distinct : signaling.roster.Distinct)
    (apart : signaling.roster.SourcesApart) (call : RosterCall) {member : Participant}
    (present : member ∈ (signaling.step call).roster.members) (media : MediaType) (ssrc : Ssrc) :
    (call = .add member ∧
        (∀ other ∈ signaling.roster.members, other.endpoint ≠ member.endpoint) ∧
        (signaling.step call).heard member.endpoint =
          (signaling.step call).roster.heldElsewhere member.endpoint) ∨
      Continues (.source media ssrc) signaling (signaling.step call) member := by
  have sole := apart.sole media ssrc
  unfold step at present ⊢
  cases outcome : signaling.roster.handle call with
  | error cause =>
      rw [outcome] at present
      exact .inr (continues_unmoved present)
  | ok result =>
      rw [outcome] at present
      dsimp only at present ⊢
      cases Roster.handled_of_handle outcome with
      | add joined free =>
          rcases List.mem_append.mp present with old | new
          · refine .inr ⟨member, old, rfl, .kept ?_ rfl rfl id fun held => ?_⟩
            · exact Function.update_of_ne (free member old) _ _
            · exact Roster.heldElsewhere_mono (fun _ => List.mem_append_left _) held
          · obtain rfl := List.mem_singleton.mp new
            refine .inl ⟨rfl, free, ?_⟩
            rw [Roster.heldElsewhere_append_self, ← Roster.items_streamsExcept]
            exact Function.update_self _ _ _
      | announce origin originPresent streams =>
          exact .inr (continues_route
            (Roster.revised_announce distinct originPresent streams) sole present)
      | retract origin originPresent streams =>
          exact .inr (continues_route
            (Roster.revised_retract distinct originPresent streams) sole present)
      | remove origin originPresent =>
          exact .inr (continues_route
            (Roster.revised_remove distinct originPresent) sole present)
      | establish former formerPresent session =>
          obtain ⟨sameName, sameOwn, noAdd, noRemove⟩ := former.flush_spec session
          refine .inr (continues_replace distinct formerPresent _ sameName sameOwn ?_ ?_
            present)
          · intro endpoint different
            rw [Participant.deliver_flush]
            exact Function.update_of_ne different _ _
          · refine .flushed ?_ noAdd noRemove rfl
            rw [Participant.deliver_flush]
            exact Function.update_self _ _ _
      | dropSession former formerPresent =>
          refine .inr (continues_replace distinct formerPresent { former with session := none }
            rfl rfl (fun _ _ => rfl) ?_ present)
          exact .kept rfl rfl rfl (fun connected => absurd connected Bool.false_ne_true) id

end Signaling

end ConferenceFocus
