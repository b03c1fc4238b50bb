import ConferenceFocus.Media.Streams
import ConferenceFocus.Proofs.SetShape

/-!
# Sets taken apart entry by entry

A difference and an intersection keep the entries that pass a test.  They can also be had by
loops: one goes through the media of the other set and strikes its entries out, and one goes
through the entries of the set itself and inserts those that pass into a new one.  On the sets
that occur the loops leave the same, down to which media have a list.
-/

namespace ConferenceFocus

open Keyed (key)

namespace MediaSet

variable {α κ : Type} [DecidableEq κ] [Keyed α κ] {set : MediaSet α}

section Striking

/-- Takes the keys of some entries out of the list of a medium, if it has one.  A list left
without entries is not kept. -/
def strike (set : MediaSet α) (media : MediaType) (removed : List α) : MediaSet α :=
  match set.table.get? media with
  | none => set
  | some entries =>
      let kept := entries.filter fun entry => !Keyed.holds removed (key entry)
      ⟨.ofFn fun other =>
        if other = media then if kept.isEmpty then none else some kept
        else set.table.get? other⟩

/-- Strikes out what another set has, one medium of that set after the other. -/
def strikeAll (left right : MediaSet α) : MediaSet α :=
  right.table.toList.foldl (fun set (media, removed) => set.strike media removed) left

theorem entriesFor_strike (set : MediaSet α) (media other : MediaType) (removed : List α) :
    (set.strike media removed).entriesFor other =
      (set.entriesFor other).filter fun entry =>
        !(media = other && Keyed.holds removed (key entry)) := by
  unfold strike
  by_cases same : media = other
  · subst same
    cases listed : set.table.get? media with
    | none => simp [entriesFor, listed]
    | some entries =>
        simp only [entriesFor, MediaMap.get?_ofFn, listed, decide_true, Bool.true_and, if_true,
          Option.getD_some]
        split
        · next nothing => exact (List.isEmpty_iff.mp nothing).symm
        · rfl
  · cases set.table.get? media <;> simp [entriesFor, same, Ne.symm same]

theorem Tidy.strike (tidy : set.Tidy) (media : MediaType) (removed : List α) :
    (set.strike media removed).Tidy := by
  unfold MediaSet.strike
  cases set.table.get? media with
  | none => exact tidy
  | some entries =>
      intro other
      rw [MediaMap.get?_ofFn]
      split
      · split <;> simp_all
      · exact tidy other

/-- An entry is struck out if a list for its medium has its key. -/
theorem Tidy.foldl_strike (tidy : set.Tidy) (lists : List (MediaType × List α)) :
    lists.foldl (fun set (media, removed) => set.strike media removed) set =
      set.filter fun media entry =>
        !lists.any fun list => list.1 = media && Keyed.holds list.2 (key entry) := by
  induction lists generalizing set with
  | nil =>
      refine tidy.ext (tidy_filter _ _) fun media => ?_
      simp
  | cons first rest ih =>
      have struck : set.strike first.1 first.2 = set.filter fun media entry =>
          !(first.1 = media && Keyed.holds first.2 (key entry)) := by
        refine (tidy.strike _ _).ext (tidy_filter _ _) fun media => ?_
        rw [entriesFor_strike, entriesFor_filter]
      rw [List.foldl_cons, ih (tidy.strike first.1 first.2), struck, filter_filter]
      simp only [List.any_cons, Bool.not_or, Bool.and_comm]

theorem any_toList_table (set : MediaSet α) (media : MediaType) (wanted : κ) :
    (set.table.toList.any fun list => list.1 = media && Keyed.holds list.2 wanted) =
      set.contains media wanted := by
  rw [Bool.eq_iff_iff, contains, entriesFor]
  cases listed : set.table.get? media <;> simp [MediaMap.mem_toList, listed]

theorem Regular.diff_eq_strikeAll {left : MediaSet α} (regular : left.Regular)
    (right : MediaSet α) : left.diff right = left.strikeAll right := by
  rw [strikeAll, regular.tidy.foldl_strike]
  exact filter_congr fun media entry _ => congrArg not (any_toList_table right media _).symm

end Striking

section Collecting

/-- Inserts the entries that pass a test into a new set, one after the other. -/
def collect (set : MediaSet α) (keep : MediaType → α → Bool) : MediaSet α :=
  set.toList.foldl
    (fun collected (media, entry) =>
      if keep media entry then collected.insert media entry else collected) ∅

theorem Regular.filter_eq_collect (regular : set.Regular) (keep : MediaType → α → Bool) :
    set.filter keep = set.collect keep := by
  calc
    set.filter keep = MediaSet.ofList (set.filter keep).toList :=
      (regular.filter keep).ofList_toList.symm
    _ = MediaSet.ofList (set.toList.filter fun item => keep item.1 item.2) := by
      rw [toList_filter]
    _ = set.collect keep := List.foldl_filter

theorem Regular.inter_eq_collect {left : MediaSet α} (regular : left.Regular)
    (right : MediaSet α) :
    left.inter right = left.collect fun media entry => right.contains media (key entry) :=
  regular.filter_eq_collect _

end Collecting

end MediaSet

theorem GroupSet.uncoveredBy_eq_collect {groups : GroupSet} (regular : groups.Regular)
    (sources : SourceSet) :
    groups.uncoveredBy sources = groups.collect fun media group =>
      group.ssrcs.any fun ssrc => !sources.contains media ssrc :=
  regular.filter_eq_collect _

end ConferenceFocus
