import Mathlib.Data.Set.BooleanAlgebra
import Mathlib.Order.CompletePartialOrder
import ConferenceFocus.Media.Streams
import ConferenceFocus.Proofs.SetShape

/-!
# The algebra of ordered sets

A union keeps what is there and puts what is new behind it; a difference and an intersection
divide a set by the keys of another.  The laws here are equations between sets: of the same
records with all that they say, in the same order.  On one medium they are laws of lists to
which entries with new keys are appended, and from there they are carried to whole sets by
`insertAll_congr` and `Tidy.ext`.
-/

namespace ConferenceFocus

open Keyed (key)

namespace Keyed

variable {α κ : Type} [DecidableEq κ] [Keyed α κ]

/-- To append one entry more is to append it last. -/
theorem appendAll_append (entries more : List α) (entry : α) :
    appendAll entries (append more entry) = append (appendAll entries more) entry := by
  by_cases taken : holds more (key entry) = true
  · have known : holds (appendAll entries more) (key entry) = true := by
      rw [holds_appendAll, taken, Bool.or_true]
    rw [append_of_holds taken, append_of_holds known]
  · rw [append_of_not_holds taken, ← appendAll_appendAll]
    rfl

theorem appendAll_assoc (first second third : List α) :
    appendAll (appendAll first second) third = appendAll first (appendAll second third) := by
  induction third generalizing second with
  | nil => rfl
  | cons entry rest ih => rw [appendAll_cons, appendAll_cons, ← ih, appendAll_append]

section Filter

variable (keep : κ → Bool)

theorem filter_append (entries : List α) (entry : α) :
    (append entries entry).filter (fun entry => keep (key entry)) =
      if keep (key entry) then append (entries.filter fun entry => keep (key entry)) entry
      else entries.filter fun entry => keep (key entry) := by
  unfold append
  rw [holds_filter]
  by_cases kept : keep (key entry) = true
  · rw [if_pos kept, kept, Bool.and_true]
    split
    · rfl
    · rw [List.filter_append, List.filter_cons, if_pos kept, List.filter_nil]
  · rw [if_neg kept]
    split
    · rfl
    · rw [List.filter_append, List.filter_cons, if_neg kept, List.filter_nil, List.append_nil]

/-- A test on keys can be made before or after appending. -/
theorem filter_appendAll (entries more : List α) :
    (appendAll entries more).filter (fun entry => keep (key entry)) =
      appendAll (entries.filter fun entry => keep (key entry))
        (more.filter fun entry => keep (key entry)) := by
  induction more generalizing entries with
  | nil => rfl
  | cons first rest ih =>
      rw [appendAll_cons, ih, filter_append]
      by_cases kept : keep (key first) = true
      · rw [if_pos kept, List.filter_cons, if_pos kept, appendAll_cons]
      · rw [if_neg kept, List.filter_cons, if_neg kept]

end Filter

section Map

variable {change : α → α} (keeps : ∀ entry, key (change entry) = key entry)

include keeps

theorem map_append (entries : List α) (entry : α) :
    (append entries entry).map change = append (entries.map change) (change entry) := by
  unfold append
  rw [keeps, holds_map entries change keeps]
  split
  · rfl
  · rw [List.map_append, List.map_singleton]

/-- A change that keeps keys can be made before or after appending. -/
theorem map_appendAll (entries more : List α) :
    (appendAll entries more).map change = appendAll (entries.map change) (more.map change) := by
  induction more generalizing entries with
  | nil => rfl
  | cons first rest ih => rw [appendAll_cons, ih, map_append keeps, List.map_cons, appendAll_cons]

end Map

end Keyed

namespace MediaSet

variable {α κ : Type} [DecidableEq κ] [Keyed α κ] {left right : MediaSet α}

theorem contains_of_mem {set : MediaSet α} {media : MediaType} {entry : α}
    (member : entry ∈ set.entriesFor media) : set.contains media (key entry) = true :=
  contains_iff.mpr ⟨entry, member, rfl⟩

section Union

/-- A union with what has no key of its own adds nothing. -/
theorem union_eq_left (held : ∀ media wanted,
    right.contains media wanted = true → left.contains media wanted = true) :
    left.union right = left := by
  show left.insertAll right.toList = left.insertAll []
  refine insertAll_congr fun media => ?_
  rw [← union, entriesFor_union]
  exact Keyed.appendAll_of_holds fun entry listed => held media _ (contains_of_mem listed)

theorem union_self (set : MediaSet α) : set.union set = set :=
  union_eq_left fun _ _ => id

theorem union_union_self (left right : MediaSet α) :
    (left.union right).union left = left.union right := by
  refine union_eq_left fun media wanted held => ?_
  rw [contains_union, held, Bool.true_or]

theorem union_assoc (first second third : MediaSet α) :
    (first.union second).union third = first.union (second.union third) := by
  have steps : (first.union second).union third =
      first.insertAll (second.toList ++ third.toList) := List.foldl_append.symm
  rw [steps]
  refine insertAll_congr fun media => ?_
  rw [← steps, ← union]
  simp only [entriesFor_union, Keyed.appendAll_assoc]

end Union

section Diff

/-- To take a difference only the entries of the first set matter. -/
theorem diff_congr {change one other : MediaSet α}
    (same : ∀ media wanted, change.contains media wanted = true →
      one.contains media wanted = other.contains media wanted) :
    change.diff one = change.diff other :=
  filter_congr fun media entry member => by rw [same media (key entry) (contains_of_mem member)]

theorem diff_inter_left : left.diff (left.inter right) = left.diff right := by
  refine diff_congr fun media wanted inLeft => ?_
  rw [contains_inter, inLeft, Bool.true_and]

theorem diff_inter_right : right.diff (left.inter right) = right.diff left := by
  refine diff_congr fun media wanted inRight => ?_
  rw [contains_inter, inRight, Bool.and_true]

theorem diff_diff_self : left.diff (left.diff right) = left.inter right := by
  refine filter_congr fun media entry member => ?_
  rw [contains_diff, contains_of_mem member, Bool.true_and, Bool.not_not]

theorem diff_union (first second third : MediaSet α) :
    first.diff (second.union third) = (first.diff second).diff third := by
  simp only [diff, filter_filter]
  refine filter_congr fun media entry _ => ?_
  rw [contains_union, Bool.not_or, Bool.and_comm]

/-- What a union has taken in, a difference takes out. -/
theorem union_diff_right (left right : MediaSet α) :
    (left.union right).diff right = left.diff right := by
  refine (tidy_diff _ _).ext (tidy_diff _ _) fun media => ?_
  rw [entriesFor_diff, entriesFor_diff, entriesFor_union,
    Keyed.filter_appendAll fun wanted => !right.contains media wanted]
  have added : (right.entriesFor media).filter (fun entry => !right.contains media (key entry)) =
      [] := by
    refine List.filter_eq_nil_iff.mpr fun entry listed => ?_
    simp [contains_of_mem listed]
  rw [added, Keyed.appendAll_nil]

end Diff

section Division

theorem toList_inter (left right : MediaSet α) :
    (left.inter right).toList =
      left.toList.filter fun item => (item.1, key item.2) ∈ right.keys := by
  rw [inter, toList_filter]
  refine List.filter_congr fun item _ => ?_
  rw [Bool.eq_iff_iff, decide_eq_true_iff, mem_keys]

theorem toList_diff (left right : MediaSet α) :
    (left.diff right).toList =
      left.toList.filter fun item => (item.1, key item.2) ∉ right.keys := by
  rw [diff, toList_filter]
  refine List.filter_congr fun item _ => ?_
  rw [Bool.eq_iff_iff, decide_eq_true_iff, mem_keys, Bool.not_eq_true', Bool.not_eq_true]

theorem disjoint_keys_inter_diff (left right : MediaSet α) :
    Disjoint (left.inter right).keys (left.diff right).keys := by
  refine Set.disjoint_left.mpr ?_
  rintro ⟨media, wanted⟩ inside outside
  rw [mem_keys, contains_inter, Bool.and_eq_true] at inside
  rw [mem_keys, contains_diff, inside.2, Bool.not_true, Bool.and_false] at outside
  cases outside

theorem size_inter_add_size_diff (left right : MediaSet α) :
    (left.inter right).size + (left.diff right).size = left.size := by
  unfold size
  rw [inter, diff, toList_filter, toList_filter]
  exact (List.length_eq_length_filter_add _).symm

end Division

section Map

variable {change : α → α} (keeps : ∀ entry, key (change entry) = key entry)

include keeps

theorem map_union (left right : MediaSet α) :
    (left.union right).map change = (left.map change).union (right.map change) := by
  have parts : ((left.map change).union (right.map change)).Tidy := (tidy_map _ _).insertAll _
  refine (tidy_map _ _).ext parts fun media => ?_
  rw [entriesFor_map, entriesFor_union, Keyed.map_appendAll keeps, entriesFor_union,
    entriesFor_map, entriesFor_map, ← Keyed.appendAll_assoc, ← Keyed.appendAll_assoc,
    Keyed.appendAll_nil]

theorem map_filter (set : MediaSet α) (keep : MediaType → κ → Bool) :
    (set.filter fun media entry => keep media (key entry)).map change =
      (set.map change).filter fun media entry => keep media (key entry) := by
  refine (tidy_map _ _).ext (tidy_filter _ _) fun media => ?_
  rw [entriesFor_map, entriesFor_filter, entriesFor_filter, entriesFor_map,
    Keyed.filter_appendAll (keep media), List.filter_nil, List.filter_map, Function.comp_def]
  simp only [keeps]

theorem map_diff (left right : MediaSet α) :
    (left.diff right).map change = (left.map change).diff (right.map change) := by
  simp only [diff, contains_map right change keeps]
  exact map_filter keeps left fun media wanted => !right.contains media wanted

theorem map_inter (left right : MediaSet α) :
    (left.inter right).map change = (left.map change).inter (right.map change) := by
  simp only [inter, contains_map right change keeps]
  exact map_filter keeps left fun media wanted => right.contains media wanted

end Map

/-- How the operations on ordered sets go together.  A union keeps the records of its first
set and their order, so that it does not commute. -/
structure Laws (first second third : MediaSet α) : Prop where
  union_assoc : (first.union second).union third = first.union (second.union third)
  union_self : first.union first = first
  union_union_self : (first.union second).union first = first.union second
  union_diff_right : (first.union second).diff second = first.diff second
  diff_union : first.diff (second.union third) = (first.diff second).diff third
  /-- An intersection and a difference keep the records that are inside and those that are
  outside the other set, in their order. -/
  toList_inter : (first.inter second).toList =
    first.toList.filter fun item => (item.1, key item.2) ∈ second.keys
  toList_diff : (first.diff second).toList =
    first.toList.filter fun item => (item.1, key item.2) ∉ second.keys
  disjoint_keys : Disjoint (first.inter second).keys (first.diff second).keys
  size_add_size : (first.inter second).size + (first.diff second).size = first.size
  diff_inter : first.diff (first.inter second) = first.diff second

theorem laws (first second third : MediaSet α) : Laws first second third where
  union_assoc := union_assoc first second third
  union_self := union_self first
  union_union_self := union_union_self first second
  union_diff_right := union_diff_right first second
  diff_union := diff_union first second third
  toList_inter := toList_inter first second
  toList_diff := toList_diff first second
  disjoint_keys := disjoint_keys_inter_diff first second
  size_add_size := size_inter_add_size_diff first second
  diff_inter := diff_inter_left

end MediaSet

/-- Sets of sources, told apart by SSRC, and sets of groups, told apart by value, obey the same
laws.  An owner can be stamped on sources before or after they are put together or taken apart. -/
theorem ordered_sets_obey_laws :
    (∀ first second third : SourceSet, MediaSet.Laws first second third ∧ ∀ owner,
      let stamped (set : SourceSet) : SourceSet := set.withOwner owner
      stamped (first.union second) = (stamped first).union (stamped second) ∧
        stamped (first.diff second) = (stamped first).diff (stamped second) ∧
        stamped (first.inter second) = (stamped first).inter (stamped second)) ∧
      ∀ first second third : GroupSet, MediaSet.Laws first second third := by
  refine ⟨fun first second third => ⟨MediaSet.laws first second third, fun owner => ?_⟩,
    MediaSet.laws⟩
  have keeps : ∀ source : Source, key (source.withOwner owner) = key source := fun _ => rfl
  exact ⟨MediaSet.map_union keeps first second, MediaSet.map_diff keeps first second,
    MediaSet.map_inter keeps first second⟩

end ConferenceFocus
