import ConferenceFocus.Keyed
import ConferenceFocus.Media.MediaMap

/-!
# Ordered sets of media entries

A `MediaSet` keeps, for each media type, a list of entries no two of which
share a key.  The order of the entries is kept and counts: the first entry of
a medium is its primary one.  Where two entries with one key meet, the one
that was there first stays, metadata included.

Everything is observed through `entriesFor`; each operation below has a lemma
that says what it does to that view.
-/

namespace ConferenceFocus

open Keyed (key)

/-- The entries of each medium.  A medium without entries has no list. -/
structure MediaSet (α : Type) where
  table : MediaMap (List α) := ∅
  deriving DecidableEq, Repr

namespace MediaSet

variable {α κ : Type}

instance : EmptyCollection (MediaSet α) := ⟨⟨∅⟩⟩

instance : Inhabited (MediaSet α) := ⟨∅⟩

/-- The entries of one medium, in the order in which they came. -/
def entriesFor (set : MediaSet α) (media : MediaType) : List α :=
  (set.table.get? media).getD []

def toList (set : MediaSet α) : List (MediaType × α) :=
  set.table.toList.flatMap fun (media, entries) => entries.map (media, ·)

def size (set : MediaSet α) : Nat :=
  set.toList.length

def isEmpty (set : MediaSet α) : Bool :=
  set.table.toList.all fun (_, entries) => entries.isEmpty

def mediaTypes (set : MediaSet α) : List MediaType :=
  MediaType.all.filter fun media => !(set.entriesFor media).isEmpty

/-- The entries that pass a test; a medium left without entries goes away. -/
def filter (set : MediaSet α) (keep : MediaType → α → Bool) : MediaSet α :=
  ⟨set.table.filterMap fun media entries =>
    let kept := entries.filter (keep media)
    if kept.isEmpty then none else some kept⟩

/-- The same records once more, in lists of their own. -/
def copy (set : MediaSet α) : MediaSet α :=
  ⟨set.table.filterMap fun _ entries => some (entries.map id)⟩

section Keyed

variable [DecidableEq κ] [Keyed α κ]

def contains (set : MediaSet α) (media : MediaType) (wanted : κ) : Bool :=
  Keyed.holds (set.entriesFor media) wanted

/-- Puts an entry behind those of its medium, unless its key is taken. -/
def insert (set : MediaSet α) (media : MediaType) (entry : α) : MediaSet α :=
  if set.contains media (key entry) then set
  else ⟨set.table.insert media (set.entriesFor media ++ [entry])⟩

def insertAll (set : MediaSet α) (entries : List (MediaType × α)) : MediaSet α :=
  entries.foldl (fun collected (media, entry) => collected.insert media entry) set

def ofList (entries : List (MediaType × α)) : MediaSet α :=
  insertAll ∅ entries

/-- What is in the first set, then what the second adds to it. -/
def union (left right : MediaSet α) : MediaSet α :=
  left.insertAll right.toList

def diff (left right : MediaSet α) : MediaSet α :=
  left.filter fun media entry => !right.contains media (key entry)

def inter (left right : MediaSet α) : MediaSet α :=
  left.filter fun media entry => right.contains media (key entry)

def map (set : MediaSet α) (change : α → α) : MediaSet α :=
  ofList (set.toList.map fun (media, entry) => (media, change entry))

end Keyed

@[simp] theorem entriesFor_empty (media : MediaType) :
    (∅ : MediaSet α).entriesFor media = [] := by
  cases media <;> rfl

@[simp] theorem entriesFor_filter (set : MediaSet α) (keep : MediaType → α → Bool)
    (media : MediaType) :
    (set.filter keep).entriesFor media = (set.entriesFor media).filter (keep media) := by
  simp only [filter, entriesFor, MediaMap.get?_filterMap]
  cases set.table.get? media with
  | none => rfl
  | some entries =>
      simp only [Option.bind_some, Option.getD_some]
      split <;> simp_all

@[simp] theorem copy_eq_self (set : MediaSet α) : set.copy = set := by
  refine congrArg MediaSet.mk (MediaMap.ext_get? fun media => ?_)
  simp

theorem mem_toList {set : MediaSet α} {media : MediaType} {entry : α} :
    (media, entry) ∈ set.toList ↔ entry ∈ set.entriesFor media := by
  simp only [toList, List.mem_flatMap, List.mem_map, entriesFor]
  constructor
  · rintro ⟨⟨other, entries⟩, listed, found, member, same⟩
    cases same
    rw [MediaMap.mem_toList] at listed
    simpa [listed] using member
  · intro member
    cases found : set.table.get? media with
    | none => simp [found] at member
    | some entries =>
        exact ⟨(media, entries), MediaMap.mem_toList.mpr found, entry,
          by simpa [found] using member, rfl⟩

section Keyed

variable [DecidableEq κ] [Keyed α κ]

theorem contains_iff {set : MediaSet α} {media : MediaType} {wanted : κ} :
    set.contains media wanted = true ↔ ∃ entry ∈ set.entriesFor media, key entry = wanted :=
  Keyed.holds_iff

theorem entriesFor_insert (set : MediaSet α) (media other : MediaType) (entry : α) :
    (set.insert media entry).entriesFor other =
      if other = media then Keyed.append (set.entriesFor media) entry
      else set.entriesFor other := by
  unfold insert contains Keyed.append
  by_cases same : other = media
  · subst same
    split <;> simp [entriesFor]
  · split <;> simp [entriesFor, same]

/-- Inserting a list of entries appends to each medium those that are its own. -/
theorem entriesFor_insertAll (set : MediaSet α) (entries : List (MediaType × α))
    (media : MediaType) :
    (set.insertAll entries).entriesFor media =
      Keyed.appendAll (set.entriesFor media)
        ((entries.filter (·.1 = media)).map (·.2)) := by
  induction entries generalizing set with
  | nil => rfl
  | cons first rest ih =>
      obtain ⟨home, entry⟩ := first
      have step : set.insertAll ((home, entry) :: rest) =
          (set.insert home entry).insertAll rest := rfl
      rw [step, ih, entriesFor_insert]
      by_cases same : home = media
      · simp [same]
      · simp [same, Ne.symm same]

theorem entriesFor_ofList (entries : List (MediaType × α)) (media : MediaType) :
    (ofList entries : MediaSet α).entriesFor media =
      Keyed.appendAll [] ((entries.filter (·.1 = media)).map (·.2)) := by
  simp [ofList, entriesFor_insertAll]

theorem toList_filter_media (set : MediaSet α) (media : MediaType) :
    (set.toList.filter (·.1 = media)).map (·.2) = set.entriesFor media := by
  have whole (entries : List α) : entries.filter (fun _ => true) = entries :=
    List.filter_eq_self.mpr fun _ _ => rfl
  have noneLeft (entries : List α) : entries.filter (fun _ => false) = [] :=
    List.filter_eq_nil_iff.mpr fun _ _ => Bool.false_ne_true
  obtain ⟨⟨audio, video, data⟩⟩ := set
  cases media <;> cases audio <;> cases video <;> cases data <;>
    simp [toList, MediaMap.toList, MediaType.all, MediaMap.get?, entriesFor,
      List.filter_map, Function.comp_def, whole, noneLeft]

@[simp] theorem entriesFor_union (left right : MediaSet α) (media : MediaType) :
    (left.union right).entriesFor media =
      Keyed.appendAll (left.entriesFor media) (right.entriesFor media) := by
  rw [union, entriesFor_insertAll, toList_filter_media]

@[simp] theorem entriesFor_diff (left right : MediaSet α) (media : MediaType) :
    (left.diff right).entriesFor media =
      (left.entriesFor media).filter fun entry => !right.contains media (key entry) := by
  simp [diff]

@[simp] theorem entriesFor_inter (left right : MediaSet α) (media : MediaType) :
    (left.inter right).entriesFor media =
      (left.entriesFor media).filter fun entry => right.contains media (key entry) := by
  simp [inter]

@[simp] theorem contains_empty (media : MediaType) (wanted : κ) :
    (∅ : MediaSet α).contains media wanted = false := by
  simp [contains]

@[simp] theorem contains_union (left right : MediaSet α) (media : MediaType) (wanted : κ) :
    (left.union right).contains media wanted =
      (left.contains media wanted || right.contains media wanted) := by
  simp only [contains, entriesFor_union, Keyed.holds_appendAll]

@[simp] theorem contains_diff (left right : MediaSet α) (media : MediaType) (wanted : κ) :
    (left.diff right).contains media wanted =
      (left.contains media wanted && !right.contains media wanted) := by
  simp only [contains, entriesFor_diff]
  exact Keyed.holds_filter _ (fun other => !Keyed.holds (right.entriesFor media) other) wanted

@[simp] theorem contains_inter (left right : MediaSet α) (media : MediaType) (wanted : κ) :
    (left.inter right).contains media wanted =
      (left.contains media wanted && right.contains media wanted) := by
  simp only [contains, entriesFor_inter]
  exact Keyed.holds_filter _ (Keyed.holds (right.entriesFor media)) wanted

theorem contains_of_contains_filter {set : MediaSet α} {keep : MediaType → α → Bool}
    {media : MediaType} {wanted : κ}
    (found : (set.filter keep).contains media wanted = true) :
    set.contains media wanted = true := by
  obtain ⟨entry, member, same⟩ := contains_iff.mp found
  rw [entriesFor_filter] at member
  exact contains_iff.mpr ⟨entry, (List.mem_filter.mp member).1, same⟩

theorem entriesFor_map (set : MediaSet α) (change : α → α) (media : MediaType) :
    (set.map change).entriesFor media =
      Keyed.appendAll [] ((set.entriesFor media).map change) := by
  have own : ((set.toList.map fun (home, entry) => (home, change entry)).filter
      (·.1 = media)).map (·.2) = (set.entriesFor media).map change := by
    rw [← toList_filter_media, List.filter_map, List.map_map, List.map_map]
    rfl
  rw [map, entriesFor_ofList, own]

/-- A change that keeps keys keeps what is contained. -/
theorem contains_map (set : MediaSet α) (change : α → α)
    (keeps : ∀ entry, key (change entry) = key entry) (media : MediaType) (wanted : κ) :
    (set.map change).contains media wanted = set.contains media wanted := by
  rw [contains, entriesFor_map, Keyed.holds_appendAll, Keyed.holds_nil, Bool.false_or,
    Keyed.holds_map _ change keeps]
  rfl

end Keyed

theorem isEmpty_iff {set : MediaSet α} :
    set.isEmpty = true ↔ ∀ media, set.entriesFor media = [] := by
  simp only [isEmpty, List.all_eq_true, List.isEmpty_iff, entriesFor]
  constructor
  · intro empty media
    cases found : set.table.get? media with
    | none => rfl
    | some entries => exact empty (media, entries) (MediaMap.mem_toList.mpr found)
  · rintro empty ⟨media, entries⟩ listed
    have none_left := empty media
    rwa [MediaMap.mem_toList.mp listed] at none_left

end MediaSet

end ConferenceFocus
