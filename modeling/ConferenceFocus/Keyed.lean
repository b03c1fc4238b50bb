/-!
# Lists of keyed entries

Many lists here hold entries told apart by a key: sources by SSRC, groups by
value, channels by identifier.  This module has the operations they share.
`append` and `appendAll` keep what is there: an entry whose key is taken is
left out, whatever else it says.
-/

namespace ConferenceFocus

/-- Types whose values are told apart by a key. -/
class Keyed (α : Type) (κ : outParam Type) where
  key : α → κ

namespace Keyed

variable {α κ : Type} [DecidableEq κ] [Keyed α κ]

def holds (entries : List α) (wanted : κ) : Bool :=
  entries.any fun entry => key entry = wanted

def find? (entries : List α) (wanted : κ) : Option α :=
  entries.find? fun entry => key entry = wanted

/-- Puts an entry at the end, unless its key is taken. -/
def append (entries : List α) (entry : α) : List α :=
  if holds entries (key entry) then entries else entries ++ [entry]

def appendAll (entries more : List α) : List α :=
  more.foldl append entries

def adjust (entries : List α) (wanted : κ) (change : α → α) : List α :=
  entries.map fun entry => if key entry = wanted then change entry else entry

def erase (entries : List α) (wanted : κ) : List α :=
  entries.filter fun entry => key entry ≠ wanted

theorem holds_iff {entries : List α} {wanted : κ} :
    holds entries wanted = true ↔ ∃ entry ∈ entries, key entry = wanted := by
  simp [holds]

theorem isSome_find? (entries : List α) (wanted : κ) :
    (find? entries wanted).isSome = holds entries wanted := by
  rw [Bool.eq_iff_iff, holds_iff]
  simp [find?]

@[simp] theorem holds_nil (wanted : κ) : holds ([] : List α) wanted = false := rfl

@[simp] theorem holds_append (left right : List α) (wanted : κ) :
    holds (left ++ right) wanted = (holds left wanted || holds right wanted) := by
  simp [holds]

theorem holds_filter (entries : List α) (keep : κ → Bool) (wanted : κ) :
    holds (entries.filter fun entry => keep (key entry)) wanted =
      (holds entries wanted && keep wanted) := by
  rw [Bool.eq_iff_iff, Bool.and_eq_true, holds_iff, holds_iff]
  constructor
  · rintro ⟨entry, member, rfl⟩
    obtain ⟨listed, kept⟩ := List.mem_filter.mp member
    exact ⟨⟨entry, listed, rfl⟩, kept⟩
  · rintro ⟨⟨entry, listed, rfl⟩, kept⟩
    exact ⟨entry, List.mem_filter.mpr ⟨listed, kept⟩, rfl⟩

theorem holds_map (entries : List α) (change : α → α)
    (keeps : ∀ entry, key (change entry) = key entry) (wanted : κ) :
    holds (entries.map change) wanted = holds entries wanted := by
  simp [holds, keeps, Function.comp_def]

@[simp] theorem appendAll_nil (entries : List α) : appendAll entries [] = entries := rfl

@[simp] theorem appendAll_cons (entries : List α) (first : α) (rest : List α) :
    appendAll entries (first :: rest) = appendAll (append entries first) rest := rfl

/-- Appending leaves what was there in place, as the front of the list. -/
theorem prefix_appendAll (entries more : List α) : entries <+: appendAll entries more := by
  induction more generalizing entries with
  | nil => exact List.prefix_refl entries
  | cons first rest ih =>
      refine List.IsPrefix.trans ?_ (ih (append entries first))
      unfold append
      split
      · exact List.prefix_refl entries
      · exact List.prefix_append entries [first]

/-- After appending, the keys are those of both lists. -/
theorem holds_appendAll (entries more : List α) (wanted : κ) :
    holds (appendAll entries more) wanted = (holds entries wanted || holds more wanted) := by
  induction more generalizing entries with
  | nil => simp
  | cons first rest ih =>
      rw [appendAll_cons, ih]
      have head : holds (first :: rest) wanted =
          (decide (key first = wanted) || holds rest wanted) := by simp [holds]
      rw [head]
      unfold append
      split
      · rename_i taken
        by_cases same : key first = wanted
        · subst same
          simp [taken]
        · simp [same]
      · simp [holds, Bool.or_assoc]

theorem find?_append (entries : List α) (entry : α) (wanted : κ) :
    find? (append entries entry) wanted =
      (find? entries wanted).or (if key entry = wanted then some entry else none) := by
  unfold append
  split
  · next taken =>
      by_cases same : key entry = wanted
      · subst same
        obtain ⟨first, found⟩ :=
          Option.isSome_iff_exists.mp ((isSome_find? entries (key entry)).trans taken)
        simp [found]
      · simp [same]
  · by_cases same : key entry = wanted <;> simp [find?, List.find?_append, same]

/-- A change that keeps keys is seen by a look-up of the key it is made at. -/
theorem find?_adjust (entries : List α) (wanted : κ) (change : α → α)
    (keeps : ∀ entry, key (change entry) = key entry) (other : κ) :
    find? (adjust entries wanted change) other =
      if other = wanted then (find? entries other).map change else find? entries other := by
  have passes : (fun entry : α =>
      decide (key (if key entry = wanted then change entry else entry) = other)) =
        fun entry => decide (key entry = other) := by
    funext entry
    split <;> simp [keeps]
  unfold find? adjust
  rw [List.find?_map, Function.comp_def, passes]
  cases found : entries.find? fun entry => decide (key entry = other) with
  | none => simp
  | some entry =>
      obtain rfl : key entry = other := by simpa using List.find?_some found
      simp only [Option.map_some]
      split <;> rfl

theorem find?_erase_of_ne (entries : List α) {wanted other : κ} (different : other ≠ wanted) :
    find? (erase entries wanted) other = find? entries other := by
  unfold find? erase
  rw [List.find?_filter]
  congr 1
  funext entry
  by_cases same : key entry = other
  · simp [same, different]
  · simp [same]

/-- What is said of keys is said of an adjusted list as of the list itself. -/
theorem exists_adjust {has : α → Prop} (entries : List α) (wanted : κ) (change : α → α)
    (keeps : ∀ entry, has (change entry) ↔ has entry) :
    (∃ entry ∈ adjust entries wanted change, has entry) ↔ ∃ entry ∈ entries, has entry := by
  simp only [adjust, List.mem_map]
  constructor
  · rintro ⟨_, ⟨entry, member, rfl⟩, satisfied⟩
    refine ⟨entry, member, ?_⟩
    split at satisfied
    · exact (keeps entry).mp satisfied
    · exact satisfied
  · rintro ⟨entry, member, satisfied⟩
    refine ⟨_, ⟨entry, member, rfl⟩, ?_⟩
    split
    · exact (keeps entry).mpr satisfied
    · exact satisfied

theorem mem_of_mem_append {entries : List α} {entry other : α}
    (member : other ∈ append entries entry) : other ∈ entries ∨ other = entry := by
  unfold append at member
  split at member
  · exact .inl member
  · simpa using member

theorem mem_of_mem_appendAll {entries more : List α} {other : α}
    (member : other ∈ appendAll entries more) : other ∈ entries ∨ other ∈ more := by
  induction more generalizing entries with
  | nil => exact .inl member
  | cons first rest ih =>
      rcases ih member with earlier | later
      · rcases mem_of_mem_append earlier with held | rfl
        · exact .inl held
        · exact .inr List.mem_cons_self
      · exact .inr (List.mem_cons_of_mem _ later)

theorem nodup_append {entries : List α} (distinct : (entries.map key).Nodup) (entry : α) :
    ((append entries entry).map key).Nodup := by
  unfold append
  split
  · exact distinct
  · next free =>
      rw [List.map_append, List.nodup_append]
      refine ⟨distinct, by simp, ?_⟩
      rintro _ listed _ added rfl
      obtain ⟨other, member, sameKey⟩ := List.mem_map.mp listed
      exact free (holds_iff.mpr ⟨other, member, sameKey.trans (by simpa using added)⟩)

/-- Appending never makes two entries share a key, whatever is in the other list. -/
theorem nodup_appendAll {entries : List α} (distinct : (entries.map key).Nodup)
    (more : List α) : ((appendAll entries more).map key).Nodup := by
  induction more generalizing entries with
  | nil => exact distinct
  | cons first rest ih => exact ih (nodup_append distinct first)

theorem mem_append_of_mem {entries : List α} {entry other : α} (member : other ∈ entries) :
    other ∈ append entries entry :=
  (prefix_appendAll entries [entry]).subset member

/-- The key of an entry that is put in is there, whoever has it. -/
theorem exists_mem_append (entries : List α) (entry : α) :
    ∃ other ∈ append entries entry, key other = key entry := by
  have taken := holds_appendAll entries [entry] (key entry)
  rw [show holds [entry] (key entry) = true from holds_iff.mpr ⟨entry, by simp, rfl⟩,
    Bool.or_true] at taken
  exact holds_iff.mp taken

theorem mem_erase {entries : List α} {wanted : κ} {entry : α} :
    entry ∈ erase entries wanted ↔ entry ∈ entries ∧ key entry ≠ wanted := by
  simp [erase]

theorem find?_erase_self (entries : List α) (wanted : κ) :
    find? (erase entries wanted) wanted = none := by
  apply List.find?_eq_none.mpr
  intro entry member
  rw [decide_eq_true_eq]
  exact (mem_erase.mp member).2

theorem nodup_erase {entries : List α} (distinct : (entries.map key).Nodup) (wanted : κ) :
    ((erase entries wanted).map key).Nodup :=
  distinct.sublist (List.filter_sublist.map key)

section Change

variable {β : Type} {entries : List α} {entry : α} {wanted : κ} {keep : α → Bool}

theorem append_of_holds (taken : holds entries (key entry) = true) :
    append entries entry = entries :=
  if_pos taken

theorem append_of_not_holds (free : ¬ holds entries (key entry) = true) :
    append entries entry = entries ++ [entry] :=
  if_neg free

/-- Entries with keys of their own are appended as they are. -/
theorem appendAll_of_free {more : List α} (distinct : (more.map key).Nodup)
    (free : ∀ entry ∈ more, ∀ held ∈ entries, key held ≠ key entry) :
    appendAll entries more = entries ++ more := by
  induction more generalizing entries with
  | nil => simp
  | cons first rest ih =>
      rw [List.map_cons, List.nodup_cons] at distinct
      obtain ⟨firstFree, restFree⟩ := List.forall_mem_cons.mp free
      have absent : ¬ holds entries (key first) = true := by
        intro taken
        obtain ⟨held, present, same⟩ := holds_iff.mp taken
        exact firstFree held present same
      rw [appendAll_cons, append_of_not_holds absent, ih distinct.2, List.append_assoc,
        List.singleton_append]
      intro entry later held present
      rcases List.mem_append.mp present with earlier | added
      · exact restFree entry later held earlier
      · rw [List.mem_singleton.mp added]
        exact fun same => distinct.1 (List.mem_map.mpr ⟨entry, later, same.symm⟩)

theorem filter_erase (spares : ∀ entry, keep entry = true → key entry ≠ wanted) :
    (erase entries wanted).filter keep = entries.filter keep := by
  rw [erase, List.filter_filter]
  refine List.filter_congr fun entry _ => ?_
  by_cases kept : keep entry = true
  · simp [kept, spares entry kept]
  · simp [kept]

theorem filter_adjust {change : α → α} (stable : ∀ entry, keep (change entry) = keep entry)
    (spares : ∀ entry, keep entry = true → key entry ≠ wanted) :
    (adjust entries wanted change).filter keep = entries.filter keep := by
  have steady (entry : α) : keep (if key entry = wanted then change entry else entry) =
      keep entry := by
    split
    · exact stable entry
    · rfl
  rw [adjust, List.filter_map, Function.comp_def]
  simp only [steady]
  refine (List.map_congr_left fun entry member => ?_).trans (List.map_id _)
  exact if_neg (spares entry (List.mem_filter.mp member).2)

theorem map_adjust (view : α → β) (change : α → α)
    (stable : ∀ entry, view (change entry) = view entry) :
    (adjust entries wanted change).map view = entries.map view := by
  rw [adjust, List.map_map]
  refine List.map_congr_left fun entry _ => ?_
  rw [Function.comp_apply]
  split
  · exact stable entry
  · rfl

theorem nodup_adjust (distinct : (entries.map key).Nodup) (change : α → α)
    (keeps : ∀ entry, key (change entry) = key entry) :
    ((adjust entries wanted change).map key).Nodup := by
  rw [map_adjust key change keeps]
  exact distinct

/-- An entry with a key of its own is the only one that changes once it is appended. -/
theorem adjust_append_of_free (change : α → α) (free : ¬ holds entries (key entry) = true) :
    adjust (append entries entry) (key entry) change = entries ++ [change entry] := by
  have others : entries.map (fun held => if key held = key entry then change held else held) =
      entries := by
    refine (List.map_congr_left fun held present => ?_).trans (List.map_id _)
    exact if_neg fun same => free (holds_iff.mpr ⟨held, present, same⟩)
  rw [append_of_not_holds free, adjust, List.map_append, others, List.map_singleton, if_pos rfl]

end Change

end Keyed

end ConferenceFocus
