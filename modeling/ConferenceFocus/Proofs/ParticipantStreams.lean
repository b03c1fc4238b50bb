import ConferenceFocus.Membership.Roster
import ConferenceFocus.Proofs.StreamItems

/-!
# The streams of a participant as sets of items

What the operations on a participant do to the items it holds and to the items
that wait in its two queues.
-/

namespace ConferenceFocus.Participant

section Own

variable (member : Participant) (streams : Streams)

theorem items_own_addStreams :
    (member.addStreams streams).own.items = member.own.items ∪ streams.items := by
  simp [addStreams]

/-- What is withdrawn was held, and is held no longer. -/
theorem items_withdraw :
    (member.withdraw streams).1.items ⊆ member.own.items ∧
      (member.withdraw streams).2.own.items =
        member.own.items \ (member.withdraw streams).1.items := by
  let owned := member.own.inter streams
  let kept : Streams :=
    { sources := member.own.sources.diff owned.sources,
      groups := member.own.groups.diff owned.groups }
  have orphanKept {media : MediaType} {group : SourceGroup}
      (orphan : kept.orphans.contains media group = true) :
      kept.groups.contains media group = true :=
    MediaSet.contains_of_contains_filter orphan
  have gone : (member.withdraw streams).1 =
      { owned with groups := owned.groups.union kept.orphans } := rfl
  have left : (member.withdraw streams).2.own =
      { kept with groups := kept.groups.diff kept.orphans } := rfl
  rw [gone, left]
  constructor
  · intro item found
    cases item with
    | source media ssrc =>
        have named : owned.sources.contains media ssrc = true := found
        simp only [owned, Streams.inter, MediaSet.contains_inter, Bool.and_eq_true] at named
        exact named.1
    | group media group =>
        have named : (owned.groups.union kept.orphans).contains media group = true := found
        rw [MediaSet.contains_union, Bool.or_eq_true] at named
        rcases named with named | orphan
        · simp only [owned, Streams.inter, MediaSet.contains_inter, Bool.and_eq_true] at named
          exact named.1
        · have named := orphanKept orphan
          simp only [kept, MediaSet.contains_diff, Bool.and_eq_true] at named
          exact named.1
  · ext item
    cases item with
    | source media ssrc => simp [Streams.mem_items, Streams.names, kept]
    | group media group => simp [Streams.mem_items, Streams.names, kept, and_assoc]

end Own

section Queues

variable (member : Participant) (streams : Streams)

@[simp] theorem items_pendingAdd_scheduleAdd :
    (member.scheduleAdd streams).pendingAdd.items =
      member.pendingAdd.items ∪ (streams.items \ member.pendingRemove.items) := by
  ext item
  simp only [scheduleAdd, Streams.items_union, Streams.items_diff, Streams.items_inter,
    Set.mem_union, Set.mem_sdiff, Set.mem_inter_iff]
  tauto

@[simp] theorem items_pendingRemove_scheduleAdd :
    (member.scheduleAdd streams).pendingRemove.items =
      member.pendingRemove.items \ streams.items := by
  ext item
  simp only [scheduleAdd, Streams.items_diff, Streams.items_inter, Set.mem_sdiff,
    Set.mem_inter_iff]
  tauto

@[simp] theorem items_pendingAdd_scheduleRemove :
    (member.scheduleRemove streams).pendingAdd.items =
      member.pendingAdd.items \ streams.items := by
  ext item
  simp only [scheduleRemove, Streams.items_diff, Streams.items_inter, Set.mem_sdiff,
    Set.mem_inter_iff]
  tauto

@[simp] theorem items_pendingRemove_scheduleRemove :
    (member.scheduleRemove streams).pendingRemove.items =
      member.pendingRemove.items ∪ (streams.items \ member.pendingAdd.items) := by
  ext item
  simp only [scheduleRemove, Streams.items_union, Streams.items_diff, Streams.items_inter,
    Set.mem_union, Set.mem_sdiff, Set.mem_inter_iff]
  tauto

end Queues

end ConferenceFocus.Participant
