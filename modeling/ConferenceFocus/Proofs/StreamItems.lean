import Mathlib.Data.Set.BooleanAlgebra
import Mathlib.Order.CompletePartialOrder
import ConferenceFocus.Media.Streams

/-!
# Streams as sets of items

An item of streams is a source, told apart by medium and SSRC, or a group, told
apart by medium and value.  Metadata and order are left out, and with them the
difference between streams that name the same things.  On items the operations
on streams are those on sets.
-/

namespace ConferenceFocus

inductive StreamItem where
  | source (media : MediaType) (ssrc : Ssrc)
  | group (media : MediaType) (group : SourceGroup)
  deriving DecidableEq, Repr

namespace Streams

def names (streams : Streams) : StreamItem → Bool
  | .source media ssrc => streams.sources.contains media ssrc
  | .group media group => streams.groups.contains media group

/-- The items that streams name. -/
def items (streams : Streams) : Set StreamItem :=
  {item | streams.names item = true}

theorem mem_items {streams : Streams} {item : StreamItem} :
    item ∈ streams.items ↔ streams.names item = true :=
  Iff.rfl

instance (streams : Streams) (item : StreamItem) : Decidable (item ∈ streams.items) :=
  inferInstanceAs (Decidable (streams.names item = true))

@[simp] theorem items_empty : (∅ : Streams).items = ∅ := by
  ext item
  cases item with
  | source media ssrc =>
      have absent : (∅ : Streams).sources.contains media ssrc = false :=
        MediaSet.contains_empty media ssrc
      simp [mem_items, names, absent]
  | group media group =>
      have absent : (∅ : Streams).groups.contains media group = false :=
        MediaSet.contains_empty media group
      simp [mem_items, names, absent]

@[simp] theorem items_union (left right : Streams) :
    (left.union right).items = left.items ∪ right.items := by
  ext item
  cases item <;> simp [mem_items, names, union]

@[simp] theorem items_diff (left right : Streams) :
    (left.diff right).items = left.items \ right.items := by
  ext item
  cases item <;> simp [mem_items, names, diff]

@[simp] theorem items_inter (left right : Streams) :
    (left.inter right).items = left.items ∩ right.items := by
  ext item
  cases item <;> simp [mem_items, names, inter]

@[simp] theorem items_withOwner (streams : Streams) (owner : String) :
    (streams.withOwner owner).items = streams.items := by
  ext item
  cases item with
  | source media ssrc =>
      exact Bool.eq_iff_iff.mp
        (MediaSet.contains_map streams.sources (·.withOwner owner) (fun _ => rfl) media ssrc)
  | group media group => exact Iff.rfl

theorem isEmpty_iff_items {streams : Streams} :
    streams.isEmpty = true ↔ streams.items = ∅ := by
  rw [isEmpty, Bool.and_eq_true, MediaSet.isEmpty_iff, MediaSet.isEmpty_iff,
    Set.eq_empty_iff_forall_notMem]
  constructor
  · intro bare item
    obtain ⟨noSources, noGroups⟩ := bare
    cases item with
    | source media ssrc => simp [mem_items, names, MediaSet.contains, noSources media]
    | group media group => simp [mem_items, names, MediaSet.contains, noGroups media]
  · intro nothing
    constructor
    · intro media
      refine List.eq_nil_iff_forall_not_mem.mpr fun source member => ?_
      exact nothing (.source media source.ssrc) (MediaSet.contains_iff.mpr ⟨source, member, rfl⟩)
    · intro media
      refine List.eq_nil_iff_forall_not_mem.mpr fun group member => ?_
      exact nothing (.group media group) (MediaSet.contains_iff.mpr ⟨group, member, rfl⟩)

theorem disjoint_items_iff {left right : Streams} :
    Disjoint left.items right.items ↔ (left.inter right).isEmpty = true := by
  rw [isEmpty_iff_items, items_inter, Set.disjoint_iff_inter_eq_empty]

theorem mem_items_foldl_union {start : Streams} {more : List Streams} {item : StreamItem} :
    item ∈ (more.foldl union start).items ↔
      item ∈ start.items ∨ ∃ streams ∈ more, item ∈ streams.items := by
  induction more generalizing start with
  | nil => simp
  | cons first rest ih => simp [ih, or_assoc]

end Streams

end ConferenceFocus
