import Mathlib.Data.List.TFAE
import Mathlib.Data.Set.Card
import ConferenceFocus.Media.Streams
import ConferenceFocus.Proofs.SetShape

/-!
# Sets however they are made

The sets of sources and of groups are those that the operations make, nested in any way.  By
induction over the way a set is made it is regular, and of regular sets two are equal once
their entries are.  So it never shows how a set came about.
-/

namespace ConferenceFocus

open Keyed (key)

namespace MediaSet

variable {α κ : Type} [DecidableEq κ] [Keyed α κ] {set : MediaSet α}

/-- Of each key the first of the listed records is kept, in the order of the list. -/
theorem entriesFor_ofList_eq_eraseDupsBy (entries : List (MediaType × α)) (media : MediaType) :
    (ofList entries).entriesFor media =
      ((entries.filter (·.1 = media)).map (·.2)).eraseDupsBy
        fun one other => key one = key other := by
  rw [entriesFor_ofList, Keyed.appendAll_eq_append_novel, List.nil_append, Keyed.novel]
  simp only [Keyed.holds_nil, Bool.not_false, List.filter_true]

theorem coe_toFinset_toList (set : MediaSet α) :
    ((set.toList.map fun item => (item.1, key item.2)).toFinset : Set (MediaType × κ)) =
      set.keys := by
  ext ⟨media, wanted⟩
  rw [mem_keys, contains_iff, List.coe_toFinset, Set.mem_ofPred_eq, List.mem_map]
  constructor
  · rintro ⟨⟨home, entry⟩, listed, same⟩
    cases same
    exact ⟨entry, mem_toList.mp listed, rfl⟩
  · rintro ⟨entry, member, rfl⟩
    exact ⟨(media, entry), mem_toList.mpr member, rfl⟩

theorem Distinct.size_eq_encard (distinct : set.Distinct) :
    (set.size : ℕ∞) = set.keys.encard := by
  rw [← coe_toFinset_toList, Set.encard_coe_eq_coe_finsetCard,
    List.toFinset_card_of_nodup distinct.nodup_toList, List.length_map]
  rfl

theorem Tidy.isEmpty_tfae (tidy : set.Tidy) :
    List.TFAE [set.isEmpty = true, set.size = 0, set.mediaTypes = [], set = ∅] := by
  have bare : set = ∅ ↔ ∀ media, set.entriesFor media = [] := by
    constructor
    · rintro rfl media
      exact entriesFor_empty media
    · intro nothing
      exact tidy.ext tidy_empty fun media => (nothing media).trans (entriesFor_empty media).symm
  apply List.tfae_of_forall (∀ media, set.entriesFor media = [])
  simp only [List.forall_mem_cons, List.not_mem_nil, false_imp_iff, implies_true, and_true]
  exact ⟨isEmpty_iff, size_eq_zero_iff, mediaTypes_eq_nil_iff, bare⟩

/-- How sets are made is canonical if a set shows nothing of it but its entries. -/
structure Canonical (built : MediaSet α → Prop) : Prop where
  tidy : ∀ set, built set → set.Tidy
  distinct : ∀ set, built set → set.Distinct
  eq_iff : ∀ left right, built left → built right →
    (left = right ↔ ∀ media, left.entriesFor media = right.entriesFor media)
  ofList_toList : ∀ set, built set → ofList set.toList = set
  /-- Entries are counted once, by medium and key. -/
  size_eq : ∀ set, built set → (set.size : ℕ∞) = set.keys.encard
  isEmpty_tfae : ∀ set, built set →
    List.TFAE [set.isEmpty = true, set.size = 0, set.mediaTypes = [], set = ∅]
  /-- Whatever is listed makes a set.  Of each key it has the first record. -/
  listed : ∀ entries : List (MediaType × α), built (ofList entries) ∧ ∀ media,
    (ofList entries).entriesFor media = ((entries.filter (·.1 = media)).map (·.2)).eraseDupsBy
      fun one other => key one = key other

theorem canonical_of_regular {built : MediaSet α → Prop}
    (regular : ∀ {set}, built set → set.Regular)
    (listed : ∀ entries, built (ofList entries)) : Canonical built where
  tidy _ made := (regular made).tidy
  distinct _ made := (regular made).distinct
  eq_iff _ _ leftMade rightMade :=
    ⟨fun same _ => congrArg (entriesFor · _) same,
      (regular leftMade).tidy.ext (regular rightMade).tidy⟩
  ofList_toList _ made := (regular made).ofList_toList
  size_eq _ made := (regular made).distinct.size_eq_encard
  isEmpty_tfae _ made := (regular made).tidy.isEmpty_tfae
  listed entries := ⟨listed entries, entriesFor_ofList_eq_eraseDupsBy entries⟩

end MediaSet

namespace SourceSet

/-- The source sets that are listed, collected from contents, or made of others.  A copy
that shares the records of a set is the set itself. -/
inductive Built : SourceSet → Prop where
  | ofList (entries : List (MediaType × Source)) : Built (MediaSet.ofList entries)
  | ofContents (contents : List MediaContent) : Built (ofContents contents)
  | union {left right : SourceSet} : Built left → Built right → Built (left.union right)
  | diff {left right : SourceSet} : Built left → Built right → Built (left.diff right)
  | inter {left right : SourceSet} : Built left → Built right → Built (left.inter right)
  | copy {set : SourceSet} : Built set → Built set.copy
  | withOwner {set : SourceSet} (owner : String) : Built set → Built (set.withOwner owner)

theorem Built.regular {set : SourceSet} (built : set.Built) : set.Regular := by
  induction built with
  | ofList entries => exact .ofList entries
  | ofContents contents => exact .ofList _
  | union _ _ left _ => exact left.union _
  | diff _ _ left _ => exact left.filter _
  | inter _ _ left _ => exact left.filter _
  | copy _ regular => rwa [MediaSet.copy_eq_self]
  | withOwner owner _ _ => exact .ofList _

end SourceSet

namespace GroupSet

/-- The group sets that are listed, collected from contents, or made of others and of
source sets. -/
inductive Built : GroupSet → Prop where
  | ofList (entries : List (MediaType × SourceGroup)) : Built (MediaSet.ofList entries)
  | ofContents (contents : List MediaContent) : Built (ofContents contents)
  | union {left right : GroupSet} : Built left → Built right → Built (left.union right)
  | diff {left right : GroupSet} : Built left → Built right → Built (left.diff right)
  | inter {left right : GroupSet} : Built left → Built right → Built (left.inter right)
  | uncoveredBy {groups : GroupSet} {sources : SourceSet} :
      Built groups → sources.Built → Built (groups.uncoveredBy sources)
  | copy {set : GroupSet} : Built set → Built set.copy

theorem Built.regular {set : GroupSet} (built : set.Built) : set.Regular := by
  induction built with
  | ofList entries => exact .ofList entries
  | ofContents contents => exact .ofList _
  | union _ _ left _ => exact left.union _
  | diff _ _ left _ => exact left.filter _
  | inter _ _ left _ => exact left.filter _
  | uncoveredBy _ _ groups => exact groups.filter _
  | copy _ regular => rwa [MediaSet.copy_eq_self]

end GroupSet

/-- Whatever operations a set of sources or of groups was made by, no medium has an empty list
and none has a key twice.  So two sets are equal once their entries are, the size counts what
is told apart by medium and key, and the ways to ask for emptiness agree. -/
theorem built_sets_canonical :
    MediaSet.Canonical SourceSet.Built ∧ MediaSet.Canonical GroupSet.Built :=
  ⟨MediaSet.canonical_of_regular SourceSet.Built.regular .ofList,
    MediaSet.canonical_of_regular GroupSet.Built.regular .ofList⟩

/-- Two sources, announced and then stamped, or listed one by one.  Either way names a source
twice, and the second takes all of a medium out again. -/
theorem built_sets_canonical_of_two_routes :
    let camera : Source := { ssrc := ⟨1⟩ }
    let screen : Source := { ssrc := ⟨2⟩, videoType := some .screen }
    let voice : Source := { ssrc := ⟨1⟩, owner := some "room/bob" }
    let announced : SourceSet := SourceSet.withOwner
      (SourceSet.ofContents [{ media := .video, sources := [camera, screen, camera] },
        { media := .audio }]) "room/alice"
    let listed : SourceSet := MediaSet.diff
      (MediaSet.union
        (MediaSet.ofList [(.audio, voice), (.video, camera.withOwner "room/alice")])
        (MediaSet.ofList [(.video, camera), (.video, screen.withOwner "room/alice")]))
      (MediaSet.ofList [(.audio, camera)])
    announced.Built ∧ listed.Built ∧ announced = listed ∧
      listed.size = 2 ∧ (listed.size : ℕ∞) = listed.keys.encard := by
  intro camera screen voice announced listed
  have announcedBuilt : announced.Built := .withOwner _ (.ofContents _)
  have listedBuilt : listed.Built := .diff (.union (.ofList _) (.ofList _)) (.ofList _)
  obtain ⟨sources, _⟩ := built_sets_canonical
  have same : announced = listed :=
    (sources.eq_iff announced listed announcedBuilt listedBuilt).mpr (by decide)
  exact ⟨announcedBuilt, listedBuilt, same, by decide, sources.size_eq listed listedBuilt⟩

end ConferenceFocus
