import Mathlib.Data.Prod.Lex
import ConferenceFocus.Proofs.BridgeEvents
import ConferenceFocus.Proofs.EncodedTexts

/-!
# The choice among bridges that work

What is known of a bridge is what the calls about it have left of it, whatever was called
about others in between.  The bridge chosen is the preferred one while it works, and
otherwise the working one of least rank: the one with the fewest conferences, and among
these the one whose address comes first by its bytes.
-/

namespace ConferenceFocus.Fleet

namespace SelectorCall

/-- The bridge that a call is about. -/
def address : SelectorCall → BridgeAddress
  | add address | remove address | setOperational address _ | setConferences address _ => address

/-- What a call makes of what was known of its bridge. -/
def revise : SelectorCall → Option KnownBridge → Option KnownBridge
  | add address, known => known.or (some { address })
  | remove _, _ => none
  | setOperational _ operational, known => known.map fun bridge => { bridge with operational }
  | setConferences _ conferences, known => known.map fun bridge => { bridge with conferences }

end SelectorCall

/-- What calls have left to be known of a bridge. -/
def known? (calls : List SelectorCall) (address : BridgeAddress) : Option KnownBridge :=
  (calls.filter (·.address = address)).foldl (fun known call => call.revise known) none

/-- The bridges that work after calls, with what is known of them. -/
def working (calls : List SelectorCall) : Set KnownBridge :=
  {bridge | known? calls bridge.address = some bridge ∧ bridge.operational = true}

theorem known?_append (calls : List SelectorCall) (call : SelectorCall)
    (address : BridgeAddress) : known? (calls ++ [call]) address =
      if call.address = address then call.revise (known? calls address)
      else known? calls address := by
  by_cases about : call.address = address <;> simp [known?, about]

namespace KnownBridge

/-- The conferences come first, and the bytes of the address decide between equals. -/
def rank (bridge : KnownBridge) : ℕ ×ₗ List ℕ :=
  toLex (bridge.conferences, utf8 bridge.address.text)

variable {left right bridge : KnownBridge} {bridges : List KnownBridge}

theorem precedes_iff : left.precedes right = true ↔ left.rank < right.rank := by
  rw [rank, rank, Prod.Lex.toLex_lt_toLex, utf8_lt_iff]
  simp [precedes]

theorem address_eq_of_rank_eq (same : left.rank = right.rank) : left.address = right.address := by
  have sameBytes : utf8 left.address.text = utf8 right.address.text :=
    congrArg Prod.snd (toLex_inj.mp same)
  have sameText := utf8_injective sameBytes
  cases hleft : left.address
  cases hright : right.address
  simpa [hleft, hright] using sameText

theorem first?_eq_none_iff : first? bridges = none ↔ bridges = [] := by
  cases bridges with
  | nil => exact iff_of_true rfl rfl
  | cons bridge rest =>
      refine iff_of_false ?_ (List.cons_ne_nil bridge rest)
      rw [first?]
      split <;> exact Option.some_ne_none _

theorem least_of_first? (first : first? bridges = some bridge) :
    bridge ∈ bridges ∧ ∀ other ∈ bridges, bridge.rank ≤ other.rank := by
  induction bridges generalizing bridge with
  | nil => cases first
  | cons head rest ih =>
      rw [first?] at first
      cases later : first? rest with
      | none =>
          rw [later] at first
          cases first
          rw [first?_eq_none_iff.mp later]
          simp
      | some best =>
          rw [later] at first
          obtain ⟨listed, least⟩ := ih later
          by_cases better : best.precedes head = true
          · obtain rfl : best = bridge := by simpa [better] using first
            refine ⟨List.mem_cons_of_mem _ listed, List.forall_mem_cons.mpr ⟨?_, least⟩⟩
            exact (precedes_iff.mp better).le
          · obtain rfl : head = bridge := by simpa [better] using first
            have noWorse : head.rank ≤ best.rank :=
              not_lt.mp fun lower => better (precedes_iff.mpr lower)
            refine ⟨List.mem_cons_self, List.forall_mem_cons.mpr ⟨le_rfl, fun other member => ?_⟩⟩
            exact noWorse.trans (least other member)

end KnownBridge

namespace Selector

/-- A new selector after some calls. -/
def after (preferred : Option BridgeAddress) (calls : List SelectorCall) : Selector :=
  calls.foldl perform { preferred }

theorem after_append (preferred : Option BridgeAddress) (calls : List SelectorCall)
    (call : SelectorCall) :
    after preferred (calls ++ [call]) = (after preferred calls).perform call := by
  rw [after, List.foldl_append, List.foldl_cons, List.foldl_nil, after]

theorem preferred_perform (selector : Selector) (call : SelectorCall) :
    (selector.perform call).preferred = selector.preferred := by
  cases call with
  | add address =>
      simp only [perform, add, publish]
      split <;> rfl
  | remove address =>
      simp only [perform, remove, publish]
      split <;> rfl
  | setOperational address operational =>
      simp only [perform, setOperational]
      split
      · rfl
      · split <;> rfl
  | setConferences address count => rfl

section Step

variable (selector : Selector) (address other : BridgeAddress)

theorem find?_add : (selector.add address).find? other =
    if address = other then (selector.find? other).or (some { address })
    else selector.find? other := by
  rw [find?, bridges_add, Keyed.find?_append, find?]
  by_cases same : address = other
  · have ownKey : Keyed.key ({ address } : KnownBridge) = other := same
    rw [if_pos ownKey, if_pos same]
  · have otherKey : Keyed.key ({ address } : KnownBridge) ≠ other := same
    rw [if_neg otherKey, if_neg same, Option.or_none]

theorem bridges_remove :
    (selector.remove address).bridges = Keyed.erase selector.bridges address := by
  by_cases known : selector.isKnown address = true
  · rw [remove, if_pos known, publish]
  · rw [remove, if_neg known]
    have free : ¬ Keyed.holds selector.bridges address = true := by
      rwa [isKnown, find?, Keyed.isSome_find?] at known
    refine (List.filter_eq_self.mpr fun bridge member => ?_).symm
    rw [decide_eq_true_eq]
    exact fun same => free (Keyed.holds_iff.mpr ⟨bridge, member, same⟩)

theorem find?_remove : (selector.remove address).find? other =
    if address = other then none else selector.find? other := by
  rw [find?, bridges_remove]
  by_cases same : address = other
  · rw [if_pos same, ← same, Keyed.find?_erase_self]
  · rw [if_neg same, Keyed.find?_erase_of_ne _ (Ne.symm same), find?]

theorem find?_setOperational (operational : Bool) :
    (selector.setOperational address operational).find? other =
      if address = other then
        (selector.find? other).map fun bridge => { bridge with operational }
      else selector.find? other := by
  cases found : selector.find? address with
  | none =>
      have kept : selector.setOperational address operational = selector := by
        rw [setOperational, found]
      rw [kept]
      by_cases same : address = other
      · rw [if_pos same, ← same, found, Option.map_none]
      · rw [if_neg same]
  | some bridge =>
      by_cases already : bridge.operational = operational
      · have kept : selector.setOperational address operational = selector := by
          simp only [setOperational, found, if_pos already]
        rw [kept]
        by_cases same : address = other
        · rw [if_pos same, ← same, found, Option.map_some, ← already]
        · rw [if_neg same]
      · have looked := Keyed.find?_adjust selector.bridges address
          (fun known => { known with operational }) (fun _ => rfl) other
        simp only [setOperational, found, if_neg already]
        rw [find?, publish, looked]
        simp only [eq_comm, find?]

theorem find?_setConferences (count : Nat) :
    (selector.setConferences address count).find? other =
      if address = other then
        (selector.find? other).map fun bridge => { bridge with conferences := count }
      else selector.find? other := by
  have looked := Keyed.find?_adjust selector.bridges address
    (fun known => { known with conferences := count }) (fun _ => rfl) other
  rw [find?, setConferences, looked]
  simp only [eq_comm, find?]

theorem find?_perform (call : SelectorCall) : (selector.perform call).find? other =
    if call.address = other then call.revise (selector.find? other)
    else selector.find? other := by
  cases call with
  | add address => exact find?_add selector address other
  | remove address => exact find?_remove selector address other
  | setOperational address operational =>
      exact find?_setOperational selector address other operational
  | setConferences address count => exact find?_setConferences selector address other count

end Step

variable (preferred : Option BridgeAddress) (calls : List SelectorCall)

theorem preferred_after : (after preferred calls).preferred = preferred := by
  induction calls using List.reverseRecOn with
  | nil => rfl
  | append_singleton calls call ih => rw [after_append, preferred_perform, ih]

theorem distinct_after : (after preferred calls).Distinct := by
  induction calls using List.reverseRecOn with
  | nil => exact List.nodup_nil
  | append_singleton calls call ih =>
      rw [after_append]
      exact distinct_perform ih call

theorem find?_after (address : BridgeAddress) :
    (after preferred calls).find? address = known? calls address := by
  induction calls using List.reverseRecOn with
  | nil => rfl
  | append_singleton calls call ih => rw [after_append, find?_perform, known?_append, ih]

theorem mem_working {bridge : KnownBridge} : bridge ∈ working calls ↔
    bridge ∈ (after preferred calls).bridges.filter (·.operational) := by
  have listed : known? calls bridge.address = some bridge ↔
      bridge ∈ (after preferred calls).bridges := by
    rw [← find?_after preferred, find?,
      Keyed.find?_eq_some_iff (distinct_after preferred calls)]
    exact and_iff_left rfl
  rw [List.mem_filter, ← listed]
  exact Iff.rfl

theorem isOperational_after (address : BridgeAddress) :
    (after preferred calls).isOperational address = true ↔
      ∃ bridge ∈ working calls, bridge.address = address := by
  rw [isOperational, Option.any_eq_true, find?_after]
  constructor
  · rintro ⟨bridge, known, works⟩
    have located : Keyed.key bridge = address := by
      rw [← find?_after preferred] at known
      simpa using List.find?_some known
    obtain rfl := located
    exact ⟨bridge, ⟨known, works⟩, rfl⟩
  · rintro ⟨bridge, ⟨known, works⟩, rfl⟩
    exact ⟨bridge, known, works⟩

theorem select?_of_works {bridge : KnownBridge} (works : bridge ∈ working calls) :
    (after (some bridge.address) calls).select? = some bridge.address := by
  have operational := (isOperational_after (some bridge.address) calls bridge.address).mpr
    ⟨bridge, works, rfl⟩
  rw [select?, preferred_after, Option.filter_some, if_pos operational, Option.some_or]

theorem select?_of_idle
    (idle : ∀ bridge ∈ working calls, preferred ≠ some bridge.address) :
    (after preferred calls).select? = (KnownBridge.first?
      ((after preferred calls).bridges.filter (·.operational))).map (·.address) := by
  have passed : preferred.filter (after preferred calls).isOperational = none := by
    refine Option.filter_eq_none_iff.mpr fun address wanted works => ?_
    obtain ⟨bridge, listed, rfl⟩ := (isOperational_after preferred calls address).mp works
    exact idle bridge listed wanted
  rw [select?, preferred_after, passed, Option.none_or]

theorem select?_eq_none_iff : (after preferred calls).select? = none ↔ working calls = ∅ := by
  by_cases idle : ∀ bridge ∈ working calls, preferred ≠ some bridge.address
  · rw [select?_of_idle preferred calls idle, Option.map_eq_none_iff,
      KnownBridge.first?_eq_none_iff, List.eq_nil_iff_forall_not_mem,
      Set.eq_empty_iff_forall_notMem]
    exact forall_congr' fun bridge => not_congr (mem_working preferred calls).symm
  · push Not at idle
    obtain ⟨bridge, works, rfl⟩ := idle
    refine iff_of_false ?_ (Set.nonempty_iff_ne_empty.mp ⟨bridge, works⟩)
    rw [select?_of_works calls works]
    exact Option.some_ne_none _

theorem select?_eq_some_iff
    (idle : ∀ bridge ∈ working calls, preferred ≠ some bridge.address)
    (address : BridgeAddress) : (after preferred calls).select? = some address ↔
      ∃ bridge ∈ working calls, bridge.address = address ∧
        ∀ other ∈ working calls, bridge.rank ≤ other.rank := by
  rw [select?_of_idle preferred calls idle, Option.map_eq_some_iff]
  constructor
  · rintro ⟨bridge, first, rfl⟩
    obtain ⟨listed, least⟩ := KnownBridge.least_of_first? first
    exact ⟨bridge, (mem_working preferred calls).mpr listed, rfl,
      fun other works => least other ((mem_working preferred calls).mp works)⟩
  · rintro ⟨bridge, works, rfl, least⟩
    have listed := (mem_working preferred calls).mp works
    cases first : KnownBridge.first?
        ((after preferred calls).bridges.filter (·.operational)) with
    | none =>
        rw [KnownBridge.first?_eq_none_iff.mp first] at listed
        exact absurd listed List.not_mem_nil
    | some best =>
        obtain ⟨bestListed, bestLeast⟩ := KnownBridge.least_of_first? first
        have bestWorks := (mem_working preferred calls).mpr bestListed
        have sameRank : best.rank = bridge.rank :=
          le_antisymm (bestLeast bridge listed) (least best bestWorks)
        exact ⟨best, rfl, KnownBridge.address_eq_of_rank_eq sameRank⟩

/-- A selector knows of each bridge what the calls about it have left.  The bridge chosen
is the preferred one whenever it works, and otherwise just the working bridge of least
rank.  There is none only if no bridge works. -/
theorem chooses_least_rank :
    (∀ address, (after preferred calls).find? address = known? calls address) ∧
      ((after preferred calls).select? = none ↔ working calls = ∅) ∧
      (∀ bridge ∈ working calls, preferred = some bridge.address →
        (after preferred calls).select? = some bridge.address) ∧
      ((∀ bridge ∈ working calls, preferred ≠ some bridge.address) → ∀ address,
        (after preferred calls).select? = some address ↔
          ∃ bridge ∈ working calls, bridge.address = address ∧
            ∀ other ∈ working calls, bridge.rank ≤ other.rank) := by
  refine ⟨find?_after preferred calls, select?_eq_none_iff preferred calls, ?_,
    select?_eq_some_iff preferred calls⟩
  rintro bridge works rfl
  exact select?_of_works calls works

/-- The preferred bridge was forgotten and is down since it came back, and of the others
two have equally many conferences. -/
theorem chooses_least_rank_of_tie :
    let calls : List SelectorCall :=
      [.add ⟨"bern"⟩, .add ⟨"zürich"⟩, .add ⟨"zug"⟩, .setConferences ⟨"zürich"⟩ 1,
        .remove ⟨"bern"⟩, .setConferences ⟨"zug"⟩ 1, .add ⟨"bern"⟩,
        .setOperational ⟨"bern"⟩ false]
    (∀ bridge ∈ working calls, some (⟨"bern"⟩ : BridgeAddress) ≠ some bridge.address) ∧
      (after (some ⟨"bern"⟩) calls).select? = some ⟨"zug"⟩ ∧
      (∃ bridge ∈ working calls, bridge.address = ⟨"zug"⟩ ∧
        ∀ other ∈ working calls, bridge.rank ≤ other.rank) ∧
      (after (some ⟨"zürich"⟩) calls).select? = some ⟨"zürich"⟩ := by
  intro calls
  have idle : ∀ bridge ∈ working calls,
      some (⟨"bern"⟩ : BridgeAddress) ≠ some bridge.address := by
    rintro ⟨address, operational, conferences⟩ ⟨known, works⟩ same
    obtain rfl : (⟨"bern"⟩ : BridgeAddress) = address := Option.some.inj same
    have down : known? calls ⟨"bern"⟩ = some ⟨⟨"bern"⟩, false, 0⟩ := by decide
    rw [down] at known
    cases known
    cases works
  have chosen : (after (some ⟨"bern"⟩) calls).select? = some ⟨"zug"⟩ := by decide
  have works : (⟨⟨"zürich"⟩, true, 1⟩ : KnownBridge) ∈ working calls := ⟨by decide, rfl⟩
  exact ⟨idle, chosen,
    ((chooses_least_rank (some ⟨"bern"⟩) calls).2.2.2 idle ⟨"zug"⟩).mp chosen,
    (chooses_least_rank (some ⟨"zürich"⟩) calls).2.2.1 _ works rfl⟩

end Selector

end ConferenceFocus.Fleet
