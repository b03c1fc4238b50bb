import Mathlib.Data.List.Nodup
import Mathlib.Data.Prod.Basic
import Mathlib.Data.Set.Defs
import ConferenceFocus.Media.MediaSet
import ConferenceFocus.Proofs.NovelEntries

/-!
# The shape of sets

A set is kept as a table of lists.  The operations keep up two things about it: no list is
empty, and no two entries of a list share a key.  A `Regular` set is what its entries, one
after the other, collect to, so that the table shows nothing but the entries.
-/

namespace ConferenceFocus

open Keyed (key)

namespace MediaSet

variable {α κ : Type}

section Listing

/-- A set is listed medium by medium. -/
theorem toList_eq_flatMap (set : MediaSet α) :
    set.toList = MediaType.all.flatMap fun media => (set.entriesFor media).map (media, ·) := by
  unfold toList MediaMap.toList
  rw [List.filterMap_eq_flatMap_toList, List.flatMap_assoc]
  congr 1
  funext media
  unfold entriesFor
  cases set.table.get? media with
  | none => rfl
  | some entries => simp

/-- To filter a set keeps the order in which it is listed. -/
theorem toList_filter (set : MediaSet α) (keep : MediaType → α → Bool) :
    (set.filter keep).toList = set.toList.filter fun item => keep item.1 item.2 := by
  rw [toList_eq_flatMap, toList_eq_flatMap, List.filter_flatMap]
  congr 1
  funext media
  rw [entriesFor_filter, List.filter_map]
  rfl

theorem size_eq_zero_iff {set : MediaSet α} :
    set.size = 0 ↔ ∀ media, set.entriesFor media = [] := by
  rw [size, List.length_eq_zero_iff, toList_eq_flatMap, List.flatMap_eq_nil_iff]
  simp

theorem mediaTypes_eq_nil_iff {set : MediaSet α} :
    set.mediaTypes = [] ↔ ∀ media, set.entriesFor media = [] := by
  simp [mediaTypes]

end Listing

section Tidy

/-- Whether no medium has a list without entries. -/
def Tidy (set : MediaSet α) : Prop :=
  ∀ media, set.table.get? media ≠ some []

theorem Tidy.get? {set : MediaSet α} (tidy : set.Tidy) (media : MediaType) :
    set.table.get? media =
      if set.entriesFor media = [] then none else some (set.entriesFor media) := by
  unfold entriesFor
  cases listed : set.table.get? media with
  | none => rfl
  | some entries =>
      have filled : entries ≠ [] := fun empty => tidy media (empty ▸ listed)
      simp [filled]

theorem Tidy.ext {left right : MediaSet α} (leftTidy : left.Tidy) (rightTidy : right.Tidy)
    (same : ∀ media, left.entriesFor media = right.entriesFor media) : left = right := by
  refine congrArg MediaSet.mk (MediaMap.ext_get? fun media => ?_)
  rw [leftTidy.get?, rightTidy.get?, same]

theorem tidy_empty : (∅ : MediaSet α).Tidy := by
  intro media listed
  cases media <;> cases listed

theorem tidy_filter (set : MediaSet α) (keep : MediaType → α → Bool) :
    (set.filter keep).Tidy := by
  intro media listed
  rw [filter, MediaMap.get?_filterMap, Option.bind_eq_some_iff] at listed
  obtain ⟨entries, _, kept⟩ := listed
  by_cases none : entries.filter (keep media) = [] <;> simp [none] at kept

theorem filter_congr {set : MediaSet α} {keep other : MediaType → α → Bool}
    (same : ∀ media, ∀ entry ∈ set.entriesFor media, keep media entry = other media entry) :
    set.filter keep = set.filter other := by
  refine (tidy_filter set keep).ext (tidy_filter set other) fun media => ?_
  rw [entriesFor_filter, entriesFor_filter, List.filter_congr (same media)]

theorem filter_filter (set : MediaSet α) (keep also : MediaType → α → Bool) :
    (set.filter keep).filter also =
      set.filter fun media entry => also media entry && keep media entry := by
  refine (tidy_filter _ _).ext (tidy_filter _ _) fun media => ?_
  rw [entriesFor_filter, entriesFor_filter, entriesFor_filter, List.filter_filter]

section Insertion

variable [DecidableEq κ] [Keyed α κ] {set : MediaSet α}

/-- Only a medium for which there is something new gets another list. -/
theorem get?_insertAll (set : MediaSet α) (entries : List (MediaType × α)) (media : MediaType) :
    let new := Keyed.novel (set.entriesFor media) ((entries.filter (·.1 = media)).map (·.2))
    (set.insertAll entries).table.get? media =
      if new.isEmpty then set.table.get? media else some (set.entriesFor media ++ new) := by
  induction entries generalizing set with
  | nil => rfl
  | cons first rest ih =>
      obtain ⟨home, entry⟩ := first
      have step : set.insertAll ((home, entry) :: rest) =
          (set.insert home entry).insertAll rest := rfl
      dsimp only at ih ⊢
      rw [step, ih]
      by_cases same : home = media
      · subst same
        simp only [List.filter_cons, decide_true, if_true, List.map_cons]
        by_cases taken : set.contains home (key entry) = true
        · rw [insert, if_pos taken, Keyed.novel_cons_of_holds taken]
        · rw [entriesFor_insert, if_pos rfl, Keyed.append_of_not_holds taken,
            Keyed.novel_cons_of_not_holds taken, insert, if_neg taken]
          -- The new entry alone is enough for a new list; the rest may bring nothing more.
          cases Keyed.novel (set.entriesFor home ++ [entry])
            ((rest.filter (·.1 = home)).map (·.2)) <;> simp
      · have elsewhere : (set.insert home entry).table.get? media = set.table.get? media := by
          unfold insert
          split <;> simp [Ne.symm same]
        have others : ((home, entry) :: rest).filter (·.1 = media) = rest.filter (·.1 = media) :=
          List.filter_cons_of_neg (by simpa using same)
        rw [entriesFor_insert, if_neg (Ne.symm same), elsewhere, others]

theorem Tidy.insertAll (tidy : set.Tidy) (entries : List (MediaType × α)) :
    (set.insertAll entries).Tidy := by
  intro media
  rw [get?_insertAll]
  split
  · exact tidy media
  · next grown => simp_all

theorem tidy_ofList (entries : List (MediaType × α)) : (ofList entries : MediaSet α).Tidy :=
  tidy_empty.insertAll entries

theorem tidy_map (set : MediaSet α) (change : α → α) : (set.map change).Tidy :=
  tidy_ofList _

theorem tidy_diff (left right : MediaSet α) : (left.diff right).Tidy :=
  tidy_filter left _

/-- What is inserted shows in nothing but what is looked at. -/
theorem insertAll_congr {first second : List (MediaType × α)}
    (same : ∀ media,
      (set.insertAll first).entriesFor media = (set.insertAll second).entriesFor media) :
    set.insertAll first = set.insertAll second := by
  refine congrArg MediaSet.mk (MediaMap.ext_get? fun media => ?_)
  have sameNew := same media
  rw [entriesFor_insertAll, entriesFor_insertAll, Keyed.appendAll_eq_append_novel,
    Keyed.appendAll_eq_append_novel, List.append_cancel_left_eq] at sameNew
  exact (get?_insertAll set first media).trans
    ((get?_insertAll set second media).trans (by rw [sameNew])).symm

end Insertion

end Tidy

section Distinct

variable [Keyed α κ] {set : MediaSet α}

/-- No two entries of a medium share a key. -/
def Distinct (set : MediaSet α) : Prop :=
  ∀ media, ((set.entriesFor media).map key).Nodup

instance [DecidableEq κ] (set : MediaSet α) : Decidable set.Distinct :=
  inferInstanceAs (Decidable (∀ media, ((set.entriesFor media).map key).Nodup))

theorem Distinct.filter (distinct : set.Distinct) (keep : MediaType → α → Bool) :
    (set.filter keep).Distinct := by
  intro media
  rw [entriesFor_filter]
  exact (distinct media).sublist (List.filter_sublist.map key)

/-- Listed with their media, too, no two entries share a key. -/
theorem Distinct.nodup_toList (distinct : set.Distinct) :
    (set.toList.map fun item => (item.1, key item.2)).Nodup := by
  rw [toList_eq_flatMap, List.map_flatMap, List.nodup_flatMap]
  constructor
  · intro media _
    have keys := (distinct media).map (Prod.mk_right_injective media)
    rwa [List.map_map] at keys ⊢
  · have media : MediaType.all.Nodup := by decide
    refine media.imp fun {one other} different => ?_
    simp [Function.onFun, List.Disjoint, Ne.symm different]

variable [DecidableEq κ]

theorem Distinct.union (distinct : set.Distinct) (more : MediaSet α) :
    (set.union more).Distinct := by
  intro media
  rw [entriesFor_union]
  exact Keyed.nodup_appendAll (distinct media) _

theorem distinct_ofList (entries : List (MediaType × α)) :
    (ofList entries : MediaSet α).Distinct := by
  intro media
  rw [entriesFor_ofList]
  exact Keyed.nodup_appendAll (by simp) _

end Distinct

section Keys

variable [Keyed α κ] {set : MediaSet α}

/-- The entries of a set by what tells them apart. -/
def keys (set : MediaSet α) : Set (MediaType × κ) :=
  {item | ∃ entry ∈ set.entriesFor item.1, key entry = item.2}

instance [DecidableEq κ] (set : MediaSet α) (item : MediaType × κ) :
    Decidable (item ∈ set.keys) :=
  inferInstanceAs (Decidable (∃ entry ∈ set.entriesFor item.1, key entry = item.2))

theorem mem_keys [DecidableEq κ] {media : MediaType} {wanted : κ} :
    (media, wanted) ∈ set.keys ↔ set.contains media wanted = true :=
  contains_iff.symm

end Keys

section Regular

variable [Keyed α κ] {left right set : MediaSet α}

/-- What the operations keep up. -/
structure Regular (set : MediaSet α) : Prop where
  tidy : set.Tidy
  distinct : set.Distinct

namespace Regular

theorem filter (regular : set.Regular) (keep : MediaType → α → Bool) :
    (set.filter keep).Regular :=
  ⟨tidy_filter set keep, regular.distinct.filter keep⟩

variable [DecidableEq κ]

theorem ofList (entries : List (MediaType × α)) : (MediaSet.ofList entries).Regular :=
  ⟨tidy_ofList entries, distinct_ofList entries⟩

theorem union (regular : left.Regular) (right : MediaSet α) : (left.union right).Regular :=
  ⟨regular.tidy.insertAll right.toList, regular.distinct.union right⟩

/-- A set is what its entries collect to. -/
theorem ofList_toList (regular : set.Regular) : MediaSet.ofList set.toList = set := by
  refine (tidy_ofList set.toList).ext regular.tidy fun media => ?_
  rw [entriesFor_ofList, toList_filter_media]
  exact Keyed.appendAll_of_free (regular.distinct media) (by simp)

end Regular

end Regular

end MediaSet

end ConferenceFocus
