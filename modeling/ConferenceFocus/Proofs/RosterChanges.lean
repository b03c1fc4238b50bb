import ConferenceFocus.Proofs.PeerViews
import ConferenceFocus.Proofs.QueueNetting

/-!
# Changes made by one member

An announcement, a retraction and a leave have one shape: the member that makes
the change is brought up to date, and then the others are told.  `Revised` is
what the first half leaves behind.  The second half is the same for all three,
so that what a change means for another member is said here once.
-/

namespace ConferenceFocus

namespace Participant

/-- Two states of a member between which it was neither told nor sent anything. -/
structure SameInbox (left right : Participant) : Prop where
  endpoint : left.endpoint = right.endpoint
  session : left.session = right.session
  pendingAdd : left.pendingAdd = right.pendingAdd
  pendingRemove : left.pendingRemove = right.pendingRemove

theorem sameInbox_addStreams (member : Participant) (streams : Streams) :
    member.SameInbox (member.addStreams streams) :=
  ⟨rfl, rfl, rfl, rfl⟩

theorem sameInbox_withdraw (member : Participant) (streams : Streams) :
    member.SameInbox (member.withdraw streams).2 :=
  ⟨rfl, rfl, rfl, rfl⟩

theorem reached_origin {member : Participant} {origin : EndpointId}
    (own : member.endpoint = origin) (kind : ChangeKind) (streams : Streams) :
    member.reached origin kind streams = member :=
  if_pos (.inl own)

theorem reached_of_hasSession {member : Participant} (connected : member.hasSession = true)
    (origin : EndpointId) (kind : ChangeKind) (streams : Streams) :
    member.reached origin kind streams = member := by
  simp [reached, park, connected]

@[simp] theorem hasSession_reached (member : Participant) (origin : EndpointId)
    (kind : ChangeKind) (streams : Streams) :
    (member.reached origin kind streams).hasSession = member.hasSession := by
  unfold reached park
  split
  · rfl
  · split
    · rfl
    · cases kind <;> rfl

/-- What a change leaves in the queues of a member that cannot be told. -/
theorem items_pending_reached {member : Participant} {origin : EndpointId}
    (different : member.endpoint ≠ origin) (unconnected : member.hasSession = false)
    (kind : ChangeKind) (streams : Streams) (other : ChangeKind) :
    ((member.reached origin kind streams).pending other).items =
      ((member.schedule kind streams).pending other).items := by
  cases empty : streams.isEmpty with
  | false => simp [reached, park, different, unconnected, empty]
  | true =>
      have nothing := Streams.isEmpty_iff_items.mp empty
      have same : member.reached origin kind streams = member := if_pos (.inr empty)
      rw [same]
      rcases kind.eq_or_eq_opposite other with rfl | rfl
      · simp [items_pending_schedule, nothing]
      · simp [items_pending_opposite_schedule, nothing]

end Participant

namespace Roster

section Elsewhere

variable {roster next : Roster} {origin endpoint : EndpointId} {items : Set StreamItem}

theorem heldElsewhere_of_grown
    (grown : next.held = Function.update roster.held origin (roster.held origin ∪ items))
    (different : endpoint ≠ origin) :
    next.heldElsewhere endpoint = roster.heldElsewhere endpoint ∪ items := by
  ext item
  simp only [heldElsewhere, grown, Set.mem_ofPred_eq, Set.mem_union]
  constructor
  · intro membership
    obtain ⟨other, foreign, found⟩ := membership
    by_cases own : other = origin
    · subst own
      rw [Function.update_self] at found
      rcases found with old | new
      · exact .inl ⟨other, foreign, old⟩
      · exact .inr new
    · rw [Function.update_of_ne own] at found
      exact .inl ⟨other, foreign, found⟩
  · intro membership
    rcases membership with ⟨other, foreign, found⟩ | new
    · by_cases own : other = origin
      · subst own
        exact ⟨other, foreign, by rw [Function.update_self]; exact .inl found⟩
      · exact ⟨other, foreign, by rwa [Function.update_of_ne own]⟩
    · exact ⟨origin, Ne.symm different, by rw [Function.update_self]; exact .inr new⟩

/-- What one member gives up nobody holds any more, if it was the only one to hold it. -/
theorem mem_heldElsewhere_of_shrunk {item : StreamItem}
    (sole : ∀ other, item ∈ roster.held other → item ∈ roster.held origin → other = origin)
    (given : items ⊆ roster.held origin)
    (shrunk : next.held = Function.update roster.held origin (roster.held origin \ items))
    (different : endpoint ≠ origin) :
    item ∈ next.heldElsewhere endpoint ↔ item ∈ roster.heldElsewhere endpoint ∧ item ∉ items := by
  simp only [heldElsewhere, shrunk, Set.mem_ofPred_eq]
  constructor
  · intro membership
    obtain ⟨other, foreign, found⟩ := membership
    by_cases own : other = origin
    · subst own
      rw [Function.update_self] at found
      exact ⟨⟨other, foreign, found.1⟩, found.2⟩
    · rw [Function.update_of_ne own] at found
      exact ⟨⟨other, foreign, found⟩, fun gone => own (sole other found (given gone))⟩
  · intro membership
    obtain ⟨⟨other, foreign, found⟩, kept⟩ := membership
    by_cases own : other = origin
    · subst own
      exact ⟨other, foreign, by rw [Function.update_self]; exact ⟨found, kept⟩⟩
    · exact ⟨other, foreign, by rwa [Function.update_of_ne own]⟩

theorem heldElsewhere_update_self
    (updated : next.held = Function.update roster.held endpoint items) :
    next.heldElsewhere endpoint = roster.heldElsewhere endpoint := by
  ext item
  simp only [heldElsewhere, updated, Set.mem_ofPred_eq]
  constructor
  · intro membership
    obtain ⟨other, foreign, found⟩ := membership
    exact ⟨other, foreign, by rwa [Function.update_of_ne foreign] at found⟩
  · intro membership
    obtain ⟨other, foreign, found⟩ := membership
    exact ⟨other, foreign, by rwa [Function.update_of_ne foreign]⟩

theorem heldElsewhere_mono (kept : ∀ member ∈ roster.members, member ∈ next.members) :
    roster.heldElsewhere endpoint ⊆ next.heldElsewhere endpoint := by
  rintro item ⟨other, foreign, member, present, named, held⟩
  exact ⟨other, foreign, member, kept member present, named, held⟩

/-- A member that joins does not change what the others hold. -/
theorem heldElsewhere_append_self (member : Participant) :
    (⟨roster.members ++ [member]⟩ : Roster).heldElsewhere member.endpoint =
      roster.heldElsewhere member.endpoint := by
  rw [← items_streamsExcept, ← items_streamsExcept]
  simp [streamsExcept]

theorem heldElsewhere_replace (distinct : roster.Distinct) {member changed : Participant}
    (present : member ∈ roster.members) (sameName : changed.endpoint = member.endpoint)
    (sameOwn : changed.own = member.own) :
    (roster.replace changed).heldElsewhere endpoint = roster.heldElsewhere endpoint := by
  have sameHeld : (roster.replace changed).held = roster.held := by
    rw [held_replace present changed sameName, sameOwn, sameName, ← distinct.held_eq present,
      Function.update_eq_self]
  rw [heldElsewhere, sameHeld]
  rfl

end Elsewhere

/-- A roster in which a member has changed its own streams, or has left, and
nobody has been told of it yet. -/
structure Revised (roster base : Roster) (origin : EndpointId) (kind : ChangeKind)
    (streams : Streams) : Prop where
  distinct : base.Distinct
  others : ∀ member, member.endpoint ≠ origin →
    (member ∈ base.members ↔ member ∈ roster.members)
  inbox : ∀ member ∈ base.members, member.endpoint = origin →
    ∃ before ∈ roster.members, before.SameInbox member
  held : base.held =
    Function.update roster.held origin (kind.on (roster.held origin) streams.items)
  /-- Only what was held is given up. -/
  owned : kind = .remove → streams.items ⊆ roster.held origin

section Revised

variable {roster : Roster} {member : Participant}

theorem others_replace (changed : Participant) (other : Participant)
    (different : other.endpoint ≠ changed.endpoint) :
    other ∈ (roster.replace changed).members ↔ other ∈ roster.members := by
  rw [mem_replace]
  constructor
  · rintro (⟨present, _⟩ | ⟨rfl, _⟩)
    · exact present
    · exact absurd rfl different
  · intro present
    exact .inl ⟨present, different⟩

theorem revised_replace (distinct : roster.Distinct) (present : member ∈ roster.members)
    {changed : Participant} (inbox : member.SameInbox changed) {kind : ChangeKind}
    {streams : Streams} (own : changed.own.items = kind.on member.own.items streams.items)
    (owned : kind = .remove → streams.items ⊆ member.own.items) :
    Revised roster (roster.replace changed) member.endpoint kind streams where
  distinct := distinct_replace distinct changed
  others := fun other different =>
    others_replace changed other (inbox.endpoint ▸ different)
  inbox := by
    intro other otherPresent named
    rcases mem_replace.mp otherPresent with ⟨_, different⟩ | ⟨rfl, _⟩
    · exact absurd (named.trans inbox.endpoint) different
    · exact ⟨member, present, inbox⟩
  held := by
    rw [held_replace present changed inbox.endpoint.symm, distinct.held_eq present, own,
      inbox.endpoint]
  owned := by rwa [distinct.held_eq present]

theorem revised_announce (distinct : roster.Distinct) (present : member ∈ roster.members)
    (streams : Streams) :
    Revised roster (roster.replace (member.addStreams (streams.withOwner member.owner)))
      member.endpoint .add (streams.withOwner member.owner) :=
  revised_replace distinct present (member.sameInbox_addStreams _)
    (member.items_own_addStreams _) ChangeKind.noConfusion

theorem revised_retract (distinct : roster.Distinct) (present : member ∈ roster.members)
    (streams : Streams) :
    Revised roster (roster.replace (member.withdraw streams).2) member.endpoint .remove
      (member.withdraw streams).1 := by
  obtain ⟨owned, left⟩ := member.items_withdraw streams
  exact revised_replace distinct present (member.sameInbox_withdraw streams) left fun _ => owned

theorem revised_remove (distinct : roster.Distinct) (present : member ∈ roster.members) :
    Revised roster (roster.without member.endpoint) member.endpoint .remove member.own where
  distinct := distinct_without distinct member.endpoint
  others := by
    intro other different
    simp [without, different]
  inbox := by
    intro other otherPresent named
    exact absurd named (by simpa using (List.mem_filter.mp otherPresent).2)
  held := by
    rw [held_without, distinct.held_eq present]
    simp [ChangeKind.on]
  owned := fun _ => (distinct.held_eq present).ge

end Revised

namespace Revised

variable {roster base : Roster} {origin : EndpointId} {kind : ChangeKind} {streams : Streams}

theorem heldElsewhere_origin (revised : Revised roster base origin kind streams) :
    base.heldElsewhere origin = roster.heldElsewhere origin :=
  heldElsewhere_update_self revised.held

/-- What others hold, seen from a member that did not make the change. -/
theorem mem_heldElsewhere (revised : Revised roster base origin kind streams)
    {item : StreamItem} (sole : ∀ left right, item ∈ roster.held left →
      item ∈ roster.held right → left = right)
    {endpoint : EndpointId} (different : endpoint ≠ origin) :
    item ∈ base.heldElsewhere endpoint ↔
      item ∈ kind.on (roster.heldElsewhere endpoint) streams.items := by
  have held := revised.held
  cases kind with
  | add => rw [heldElsewhere_of_grown held different]; rfl
  | remove =>
      exact mem_heldElsewhere_of_shrunk (fun other => sole other origin)
        (revised.owned rfl) held different

end Revised

section Route

variable {roster : Roster} {origin : EndpointId} {kind : ChangeKind} {streams : Streams}

theorem mem_route {update : SourceUpdate} :
    update ∈ (roster.route origin kind streams).1 ↔
      streams.isEmpty = false ∧ ∃ member ∈ roster.members, member.endpoint ≠ origin ∧
        member.update? kind streams = some update := by
  unfold route
  cases empty : streams.isEmpty with
  | true => simp
  | false => simp [and_assoc]

end Route

/-- No two members have the same name, whatever is done. -/
theorem distinct_handled {roster : Roster} {call : RosterCall}
    {result : List SourceUpdate × Roster} (distinct : roster.Distinct)
    (handled : Handled roster call result) : result.2.Distinct := by
  cases handled with
  | add member free => exact distinct_append distinct free
  | announce member present streams =>
      exact distinct_route _ _ _ _ (revised_announce distinct present streams).distinct
  | retract member present streams =>
      exact distinct_route _ _ _ _ (revised_retract distinct present streams).distinct
  | remove member present =>
      exact distinct_route _ _ _ _ (revised_remove distinct present).distinct
  | establish member present session => exact distinct_replace distinct _
  | dropSession member present => exact distinct_replace distinct _

end Roster

end ConferenceFocus
