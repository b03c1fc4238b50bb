import ConferenceFocus.Proofs.QueueNetting
import ConferenceFocus.Proofs.SetAlgebra

/-!
# Queues up to the order of their entries

In which order two changes are queued shows in the order of the queues.  Where the
changes name nothing in common, it shows in nothing else: `Rearranged` streams have
the same records, and by `schedule_schedule` two such changes leave a member with
rearranged queues.
-/

namespace ConferenceFocus

open Keyed (key)

namespace Keyed

variable {α κ : Type} [DecidableEq κ] [Keyed α κ] {entries left right : List α}

theorem holds_of_perm (same : left.Perm right) (wanted : κ) :
    holds left wanted = holds right wanted := by
  rw [Bool.eq_iff_iff, holds_iff, holds_iff]
  simp only [same.mem_iff]

theorem perm_append (same : left.Perm right) (entry : α) :
    (append left entry).Perm (append right entry) := by
  unfold append
  rw [holds_of_perm same]
  split
  · exact same
  · exact same.append_right [entry]

theorem perm_appendAll (same : left.Perm right) (more : List α) :
    (appendAll left more).Perm (appendAll right more) := by
  induction more generalizing left right with
  | nil => exact same
  | cons first rest ih => exact ih (perm_append same first)

theorem holds_append_of_ne {entry : α} {wanted : κ} (different : key entry ≠ wanted) :
    holds (append entries entry) wanted = holds entries wanted := by
  unfold append
  split
  · rfl
  · simp [holds, different]

theorem perm_append_append {first second : α} (different : key first ≠ key second) :
    (append (append entries first) second).Perm (append (append entries second) first) := by
  have secondHeld : holds (append entries first) (key second) = holds entries (key second) :=
    holds_append_of_ne different
  have firstHeld : holds (append entries second) (key first) = holds entries (key first) :=
    holds_append_of_ne (Ne.symm different)
  by_cases firstTaken : holds entries (key first) = true
  · rw [append_of_holds firstTaken, append_of_holds (firstHeld.trans firstTaken)]
  by_cases secondTaken : holds entries (key second) = true
  · rw [append_of_holds secondTaken, append_of_holds (secondHeld.trans secondTaken)]
  rw [append_of_not_holds (secondHeld ▸ secondTaken), append_of_not_holds firstTaken,
    append_of_not_holds (firstHeld ▸ firstTaken), append_of_not_holds secondTaken,
    List.append_assoc, List.append_assoc]
  exact (List.Perm.swap second first []).append_left entries

theorem perm_appendAll_append {entry : α} {more : List α}
    (different : ∀ other ∈ more, key other ≠ key entry) :
    (appendAll (append entries entry) more).Perm (append (appendAll entries more) entry) := by
  induction more generalizing entries with
  | nil => exact List.Perm.refl _
  | cons first rest ih =>
      obtain ⟨now, later⟩ := List.forall_mem_cons.mp different
      exact (perm_appendAll (perm_append_append (Ne.symm now)) rest).trans (ih later)

/-- Two lists with no key in common can be appended in either order. -/
theorem perm_appendAll_appendAll {first second : List α}
    (apart : ∀ one ∈ first, ∀ other ∈ second, key other ≠ key one) :
    (appendAll (appendAll entries first) second).Perm
      (appendAll (appendAll entries second) first) := by
  induction first generalizing entries with
  | nil => exact List.Perm.refl _
  | cons head rest ih =>
      obtain ⟨now, later⟩ := List.forall_mem_cons.mp apart
      exact (ih later).trans (perm_appendAll (perm_appendAll_append now) rest)

end Keyed

namespace MediaSet

variable {α κ : Type}

/-- The same records under each medium, in any order. -/
def Rearranged (left right : MediaSet α) : Prop :=
  ∀ media, (left.entriesFor media).Perm (right.entriesFor media)

theorem Rearranged.of_eq {left right : MediaSet α}
    (same : ∀ media, left.entriesFor media = right.entriesFor media) : left.Rearranged right :=
  fun media => .of_eq (same media)

section Keyed

variable [DecidableEq κ] [Keyed α κ] {queue left right : MediaSet α}

/-- No key is in both sets under one medium. -/
def Apart (left right : MediaSet α) : Prop :=
  ∀ media wanted, left.contains media wanted = true → right.contains media wanted = false

theorem diff_diff_of_apart (apart : left.Apart right) :
    left.diff (queue.diff right) = left.diff queue := by
  refine diff_congr fun media wanted inLeft => ?_
  rw [contains_diff, apart media wanted inLeft, Bool.not_false, Bool.and_true]

theorem diff_union_of_apart (apart : left.Apart right) :
    left.diff (queue.union right) = left.diff queue := by
  refine diff_congr fun media wanted inLeft => ?_
  rw [contains_union, apart media wanted inLeft, Bool.or_false]

theorem rearranged_union_union (apart : left.Apart right) :
    ((queue.union left).union right).Rearranged ((queue.union right).union left) := by
  intro media
  simp only [entriesFor_union]
  refine Keyed.perm_appendAll_appendAll fun one inLeft other inRight same => ?_
  have foreign := apart media (key one) (contains_of_mem inLeft)
  rw [← same, contains_of_mem inRight] at foreign
  cases foreign

theorem rearranged_diff_diff :
    ((queue.diff left).diff right).Rearranged ((queue.diff right).diff left) := by
  refine .of_eq fun media => ?_
  simp only [entriesFor_diff, List.filter_filter, Bool.and_comm]

theorem rearranged_union_diff (apart : left.Apart right) :
    ((queue.union left).diff right).Rearranged ((queue.diff right).union left) := by
  refine .of_eq fun media => ?_
  simp only [entriesFor_diff, entriesFor_union]
  have passes : (left.entriesFor media).filter
      (fun entry => !right.contains media (key entry)) = left.entriesFor media := by
    refine List.filter_eq_self.mpr fun entry inLeft => ?_
    rw [apart media (key entry) (contains_of_mem inLeft), Bool.not_false]
  rw [Keyed.filter_appendAll fun wanted => !right.contains media wanted, passes]

end Keyed

end MediaSet

namespace Streams

/-- The same sources and the same groups, in any order. -/
structure Rearranged (left right : Streams) : Prop where
  sources : left.sources.Rearranged right.sources
  groups : left.groups.Rearranged right.groups

variable {queue left right : Streams}

theorem Rearranged.refl (streams : Streams) : streams.Rearranged streams :=
  ⟨.of_eq fun _ => rfl, .of_eq fun _ => rfl⟩

theorem Rearranged.symm (same : left.Rearranged right) : right.Rearranged left :=
  ⟨fun media => (same.sources media).symm, fun media => (same.groups media).symm⟩

theorem sources_apart (apart : Disjoint left.items right.items) :
    left.sources.Apart right.sources := by
  intro media ssrc inLeft
  rw [← Bool.not_eq_true]
  exact Set.disjoint_left.mp apart (show StreamItem.source media ssrc ∈ left.items from inLeft)

theorem groups_apart (apart : Disjoint left.items right.items) :
    left.groups.Apart right.groups := by
  intro media group inLeft
  rw [← Bool.not_eq_true]
  exact Set.disjoint_left.mp apart (show StreamItem.group media group ∈ left.items from inLeft)

theorem diff_inter_left : left.diff (left.inter right) = left.diff right :=
  congrArg₂ Streams.mk MediaSet.diff_inter_left MediaSet.diff_inter_left

theorem diff_inter_right : right.diff (left.inter right) = right.diff left :=
  congrArg₂ Streams.mk MediaSet.diff_inter_right MediaSet.diff_inter_right

section Apart

variable (apart : Disjoint left.items right.items)

include apart

theorem diff_diff_of_disjoint : left.diff (queue.diff right) = left.diff queue :=
  congrArg₂ Streams.mk (MediaSet.diff_diff_of_apart (sources_apart apart))
    (MediaSet.diff_diff_of_apart (groups_apart apart))

theorem diff_union_of_disjoint : left.diff (queue.union right) = left.diff queue :=
  congrArg₂ Streams.mk (MediaSet.diff_union_of_apart (sources_apart apart))
    (MediaSet.diff_union_of_apart (groups_apart apart))

theorem rearranged_union_union :
    ((queue.union left).union right).Rearranged ((queue.union right).union left) :=
  ⟨MediaSet.rearranged_union_union (sources_apart apart),
    MediaSet.rearranged_union_union (groups_apart apart)⟩

theorem rearranged_union_diff :
    ((queue.union left).diff right).Rearranged ((queue.diff right).union left) :=
  ⟨MediaSet.rearranged_union_diff (sources_apart apart),
    MediaSet.rearranged_union_diff (groups_apart apart)⟩

end Apart

theorem rearranged_diff_diff :
    ((queue.diff left).diff right).Rearranged ((queue.diff right).diff left) :=
  ⟨MediaSet.rearranged_diff_diff, MediaSet.rearranged_diff_diff⟩

end Streams

namespace Participant

section Schedule

variable (member : Participant) (kind : ChangeKind) (streams : Streams)

theorem pending_schedule :
    (member.schedule kind streams).pending kind =
      (member.pending kind).union (streams.diff (member.pending kind.opposite)) := by
  cases kind with
  | add => exact congrArg member.pendingAdd.union Streams.diff_inter_right
  | remove => exact congrArg member.pendingRemove.union Streams.diff_inter_right

theorem pending_opposite_schedule :
    (member.schedule kind streams).pending kind.opposite =
      (member.pending kind.opposite).diff streams := by
  cases kind with
  | add => exact Streams.diff_inter_left
  | remove => exact Streams.diff_inter_left

end Schedule

/-- Two states of a member that differ in the order of its queues at most. -/
structure Alike (left right : Participant) : Prop where
  others : { left with pendingAdd := right.pendingAdd, pendingRemove := right.pendingRemove } =
    right
  queues : ∀ kind, (left.pending kind).Rearranged (right.pending kind)

theorem Alike.refl (member : Participant) : member.Alike member :=
  ⟨rfl, fun kind => .refl (member.pending kind)⟩

section Independent

variable (member : Participant) (kind : ChangeKind) {left right : Streams}
  (apart : Disjoint left.items right.items)

include apart

/-- Of two changes of one kind, neither takes part of the other out of a queue. -/
theorem rearranged_schedule_same (queue : ChangeKind) :
    (((member.schedule kind left).schedule kind right).pending queue).Rearranged
      (((member.schedule kind right).schedule kind left).pending queue) := by
  rcases kind.eq_or_eq_opposite queue with rfl | rfl
  · simp only [pending_schedule, pending_opposite_schedule]
    rw [Streams.diff_diff_of_disjoint apart, Streams.diff_diff_of_disjoint apart.symm]
    refine Streams.rearranged_union_union ?_
    simp only [Streams.items_diff]
    exact apart.mono Set.sdiff_subset Set.sdiff_subset
  · simp only [pending_opposite_schedule]
    exact Streams.rearranged_diff_diff

/-- Where one change is queued and the other taken out, the queue that the first is put
in is filtered before or after it grows. -/
theorem rearranged_schedule_opposite :
    (((member.schedule kind left).schedule kind.opposite right).pending kind).Rearranged
      (((member.schedule kind.opposite right).schedule kind left).pending kind) := by
  have taken (before : Participant) :
      (before.schedule kind.opposite right).pending kind = (before.pending kind).diff right := by
    have other := before.pending_opposite_schedule kind.opposite right
    rwa [kind.opposite_opposite] at other
  have put (before : Participant) :
      (before.schedule kind.opposite right).pending kind.opposite =
        (before.pending kind.opposite).union (right.diff (before.pending kind)) := by
    have other := before.pending_schedule kind.opposite right
    rwa [kind.opposite_opposite] at other
  rw [taken, pending_schedule, pending_schedule, taken, put]
  rw [Streams.diff_union_of_disjoint]
  · refine Streams.rearranged_union_diff ?_
    rw [Streams.items_diff]
    exact apart.mono_left Set.sdiff_subset
  · rw [Streams.items_diff]
    exact apart.mono_right Set.sdiff_subset

/-- Changes that name nothing in common can be queued in either order. -/
theorem alike_schedule_schedule (other : ChangeKind) :
    ((member.schedule kind left).schedule other right).Alike
      ((member.schedule other right).schedule kind left) where
  others := by cases kind <;> cases other <;> rfl
  queues := by
    intro queue
    rcases kind.eq_or_eq_opposite other with rfl | rfl
    · exact member.rearranged_schedule_same other apart queue
    · rcases kind.eq_or_eq_opposite queue with rfl | rfl
      · exact member.rearranged_schedule_opposite queue apart
      · have swapped := member.rearranged_schedule_opposite kind.opposite apart.symm
        rw [kind.opposite_opposite] at swapped
        exact swapped.symm

end Independent

end Participant

end ConferenceFocus
