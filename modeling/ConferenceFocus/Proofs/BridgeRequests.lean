import ConferenceFocus.Proofs.HostedEntries
import ConferenceFocus.Proofs.RequestNaming

/-!
# Requests answered by a simulated bridge

A request is refused, or all of its entries are named and carried out in one
conference.  `Sound` holds of a bridge at all times when its supply never
repeats a name: whatever it hosts goes by a name it has minted, and no name
means something in two conferences.
-/

namespace ConferenceFocus.Simulation

open Colibri Control

namespace SimulatedBridge

variable {supply : Nat → String} {bridge : SimulatedBridge} {request : Request}

/-- Notes a request and finds the conference it is about. -/
def arrival (supply : Nat → String) (request : Request) (bridge : SimulatedBridge) :
    ConferenceId × SimulatedBridge :=
  { bridge with received := bridge.received ++ [request] }.locate supply request

/-- What becomes of a request: it is refused, or carried out in one conference,
which knows all that the request names without expiring it. -/
inductive Processed (supply : Nat → String) (request : Request) (bridge : SimulatedBridge) :
    Reply × SimulatedBridge → Prop where
  | refused (condition : ErrorCondition)
      (missing : (∀ hosted ∈ (bridge.arrival supply request).2.conferences,
          hosted.id ≠ (bridge.arrival supply request).1) ∨
        ∃ entry ∈ request.conference.entries, entry.name? ≠ none ∧ entry.expire? ≠ some 0) :
      Processed supply request bridge
        (.error condition, (bridge.arrival supply request).2)
  | carried (hosted : HostedConference) (contents : List Content) (minted : Nat)
      (present : hosted ∈ (bridge.arrival supply request).2.conferences)
      (sameId : hosted.id = (bridge.arrival supply request).1)
      (known : ∀ entry ∈ request.conference.entries, ∀ name,
        entry.name? = some name → entry.expire? ≠ some 0 → hosted.knows name = true)
      (named : nameEntries supply (bridge.arrival supply request).2.minted
        request.conference.entries = (entriesOf contents, minted)) :
      Processed supply request bridge
        (.conference { request.conference with id := some hosted.id, contents },
          { (bridge.arrival supply request).2 with minted }.store (hosted.apply contents))

theorem conference?_eq_some {id : ConferenceId} {hosted : HostedConference}
    (found : bridge.conference? id = some hosted) :
    hosted ∈ bridge.conferences ∧ hosted.id = id := by
  unfold conference? Keyed.find? at found
  have sameKey := List.find?_some found
  exact ⟨List.mem_of_find?_eq_some found, of_decide_eq_true sameKey⟩

theorem processed (bridge : SimulatedBridge) (supply : Nat → String) (request : Request) :
    Processed supply request bridge (bridge.process supply request) := by
  cases found : (bridge.arrival supply request).2.conference?
      (bridge.arrival supply request).1 with
  | none =>
      have outcome : bridge.process supply request =
          (notFound s!"conference {(bridge.arrival supply request).1}",
            (bridge.arrival supply request).2) := by
        unfold arrival at found
        simp only [process, found]
        rfl
      rw [outcome]
      refine .refused _ (.inl fun hosted present sameId => ?_)
      exact List.find?_eq_none.mp found hosted present (decide_eq_true sameId)
  | some hosted =>
      cases unknown : hosted.unknownId? request.conference.contents with
      | some name =>
          have outcome : bridge.process supply request =
              (notFound s!"channel {name}", (bridge.arrival supply request).2) := by
            unfold arrival at found
            simp only [process, found, unknown]
            rfl
          obtain ⟨entry, asked, named, lasts⟩ :=
            HostedConference.mem_requiredIds.mp (List.mem_of_find?_eq_some unknown)
          rw [outcome]
          exact .refused _ (.inr ⟨entry, asked, named ▸ Option.some_ne_none name, lasts⟩)
      | none =>
          obtain ⟨present, sameId⟩ := conference?_eq_some found
          have known : ∀ entry ∈ request.conference.entries, ∀ name,
              entry.name? = some name → entry.expire? ≠ some 0 → hosted.knows name = true := by
            intro entry asked name named lasts
            have required := HostedConference.mem_requiredIds.mpr ⟨entry, asked, named, lasts⟩
            simpa using List.find?_eq_none.mp unknown name required
          have carried := Processed.carried hosted _ _ present sameId known
            (nameEntries_entriesOf supply _ _)
          rw [sameId] at carried
          unfold arrival at found
          simp only [process, found, unknown]
          exact carried

theorem mem_store {hosted other : HostedConference}
    (stored : other ∈ (bridge.store hosted).conferences) :
    other = hosted ∧ hosted.isEmpty = false ∨
      other ∈ bridge.conferences ∧ other.id ≠ hosted.id := by
  unfold store at stored
  dsimp only at stored
  split at stored
  · exact .inr (Keyed.mem_erase.mp stored)
  · next filled =>
      obtain ⟨earlier, present, rfl⟩ := List.mem_map.mp stored
      split
      · exact .inl ⟨rfl, Bool.eq_false_iff.mpr filled⟩
      · next different => exact .inr ⟨present, different⟩

theorem mem_store_self (bridge : SimulatedBridge) {hosted earlier : HostedConference}
    (filled : hosted.isEmpty = false) (present : earlier ∈ bridge.conferences)
    (sameId : earlier.id = hosted.id) :
    hosted ∈ (bridge.store hosted).conferences := by
  unfold store
  rw [if_neg (Bool.eq_false_iff.mp filled)]
  exact List.mem_map.mpr ⟨earlier, present, if_pos sameId⟩

theorem mem_arrival {other : HostedConference}
    (present : other ∈ (bridge.arrival supply request).2.conferences) :
    other ∈ bridge.conferences ∨
      request.conference.id = none ∧ other = { id := ⟨supply bridge.minted⟩ } := by
  unfold arrival locate at present
  cases asked : request.conference.id with
  | some id => exact .inl (by simpa [asked] using present)
  | none =>
      rw [asked] at present
      exact (Keyed.mem_of_mem_append present).imp_right fun opened => ⟨rfl, opened⟩

theorem minted_arrival (supply : Nat → String) (request : Request) (bridge : SimulatedBridge) :
    bridge.minted ≤ (bridge.arrival supply request).2.minted := by
  unfold arrival locate
  cases request.conference.id with
  | some id => exact Nat.le_refl _
  | none => exact Nat.le_succ _

theorem minted_arrival_id
    (known : ∀ id ∈ request.conference.id, Minted supply bridge.minted id.text) :
    Minted supply (bridge.arrival supply request).2.minted
      (bridge.arrival supply request).1.text := by
  unfold arrival locate
  cases asked : request.conference.id with
  | some id => exact known id asked
  | none => exact ⟨bridge.minted, Nat.lt_succ_self _, rfl⟩

theorem arrival_id_of_none (anonymous : request.conference.id = none) :
    (bridge.arrival supply request).1 = ⟨supply bridge.minted⟩ := by
  simp only [arrival, locate, anonymous]

theorem arrival_of_id (bridge : SimulatedBridge) (supply : Nat → String) {id : ConferenceId}
    (asked : request.conference.id = some id) :
    bridge.arrival supply request =
      (id, { bridge with received := bridge.received ++ [request] }) := by
  simp only [arrival, locate, asked]

/-- What holds of a bridge at all times. -/
structure Sound (supply : Nat → String) (bridge : SimulatedBridge) : Prop where
  ids : ∀ hosted ∈ bridge.conferences, Minted supply bridge.minted hosted.id.text
  minted : ∀ hosted ∈ bridge.conferences, ∀ name, hosted.knows name = true →
    Minted supply bridge.minted name
  /-- A name means something in one conference only. -/
  apart : ∀ left ∈ bridge.conferences, ∀ right ∈ bridge.conferences, ∀ name,
    left.knows name = true → right.knows name = true → left = right

theorem knows_opened (id : ConferenceId) (name : String) :
    ({ id } : HostedConference).knows name = false :=
  rfl

theorem sound_arrival (sound : Sound supply bridge) :
    Sound supply (bridge.arrival supply request).2 where
  ids := by
    intro hosted present
    rcases mem_arrival present with earlier | ⟨anonymous, rfl⟩
    · exact (sound.ids hosted earlier).mono (minted_arrival supply request bridge)
    · refine ⟨bridge.minted, ?_, rfl⟩
      rw [arrival, locate, anonymous]
      exact Nat.lt_succ_self _
  minted := by
    intro hosted present name known
    rcases mem_arrival present with earlier | ⟨_, rfl⟩
    · exact (sound.minted hosted earlier name known).mono (minted_arrival supply request bridge)
    · rw [knows_opened] at known
      cases known
  apart := by
    intro left leftPresent right rightPresent name leftKnows rightKnows
    rcases mem_arrival leftPresent with leftEarlier | ⟨_, rfl⟩
    · rcases mem_arrival rightPresent with rightEarlier | ⟨_, rfl⟩
      · exact sound.apart left leftEarlier right rightEarlier name leftKnows rightKnows
      · rw [knows_opened] at rightKnows
        cases rightKnows
    · rw [knows_opened] at leftKnows
      cases leftKnows

section Carried

variable {hosted : HostedConference} {asked : List Entry} {contents : List Content}
  {used minted : Nat} {name : String}

theorem knows_of_knows_apply
    (known : ∀ entry ∈ asked, ∀ name,
      entry.name? = some name → entry.expire? ≠ some 0 → hosted.knows name = true)
    (named : nameEntries supply used asked = (entriesOf contents, minted))
    (alive : (hosted.apply contents).knows name = true) :
    hosted.knows name = true ∨ ∃ index, used ≤ index ∧ index < minted ∧ name = supply index := by
  obtain ⟨role, alive⟩ := HostedConference.knows_iff.mp alive
  rw [HostedConference.apply_eq_foldl] at alive
  rcases HostedConference.hosts_of_hosts_foldl alive with
    before | ⟨entry, listed, sameName, _, lasts⟩
  · exact .inl (HostedConference.knows_iff.mpr ⟨role, before⟩)
  · obtain ⟨original, present, origin⟩ := namedFrom_of_mem named listed
    rcases origin.name? with ⟨_, rfl⟩ | ⟨_, index, above, below, fresh⟩
    · exact .inl (known entry present name sameName lasts)
    · exact .inr ⟨index, above, below, Option.some.inj (sameName.symm.trans fresh)⟩

theorem not_knows_apply (distinct : Function.Injective supply) (sound : Sound supply bridge)
    (present : hosted ∈ bridge.conferences)
    (known : ∀ entry ∈ asked, ∀ name,
      entry.name? = some name → entry.expire? ≠ some 0 → hosted.knows name = true)
    (named : nameEntries supply bridge.minted asked = (entriesOf contents, minted))
    {other : HostedConference} (otherPresent : other ∈ bridge.conferences)
    (different : other.id ≠ hosted.id) (otherKnows : other.knows name = true) :
    ¬ (hosted.apply contents).knows name = true := by
  intro knows
  rcases knows_of_knows_apply known named knows with before | ⟨index, above, _, rfl⟩
  · have same := sound.apart other otherPresent hosted present name otherKnows before
    exact different (congrArg HostedConference.id same)
  · exact not_minted_of_le distinct above
      (sound.minted other otherPresent (supply index) otherKnows)

end Carried

theorem sound_processed (distinct : Function.Injective supply) (sound : Sound supply bridge)
    {result : Reply × SimulatedBridge} (processed : Processed supply request bridge result) :
    Sound supply result.2 ∧ bridge.minted ≤ result.2.minted := by
  have arrived : Sound supply (bridge.arrival supply request).2 := sound_arrival sound
  have grown := minted_arrival supply request bridge
  cases processed with
  | refused condition missing => exact ⟨arrived, grown⟩
  | carried hosted contents minted present sameId known named =>
      have later : (bridge.arrival supply request).2.minted ≤ minted := by
        have counted := le_nameEntries supply
          (bridge.arrival supply request).2.minted request.conference.entries
        rwa [named] at counted
      refine ⟨⟨?_, ?_, ?_⟩, Nat.le_trans grown later⟩
      · intro other stored
        rcases mem_store stored with ⟨rfl, _⟩ | ⟨earlier, _⟩
        · rw [HostedConference.id_apply]
          exact (arrived.ids hosted present).mono later
        · exact (arrived.ids other earlier).mono later
      · intro other stored name knows
        rcases mem_store stored with ⟨rfl, _⟩ | ⟨earlier, _⟩
        · rcases knows_of_knows_apply known named knows with before | ⟨index, _, below, same⟩
          · exact (arrived.minted hosted present name before).mono later
          · exact ⟨index, below, same⟩
        · exact (arrived.minted other earlier name knows).mono later
      · intro left leftStored right rightStored name leftKnows rightKnows
        have foreign {other : HostedConference}
            (earlier : other ∈ (bridge.arrival supply request).2.conferences)
            (different : other.id ≠ (hosted.apply contents).id) (knows : other.knows name = true) :
            ¬ (hosted.apply contents).knows name = true :=
          not_knows_apply distinct arrived present known named earlier
            (hosted.id_apply contents ▸ different) knows
        rcases mem_store leftStored with ⟨rfl, _⟩ | ⟨leftEarlier, leftOther⟩
        · rcases mem_store rightStored with ⟨rfl, _⟩ | ⟨rightEarlier, rightOther⟩
          · rfl
          · exact absurd leftKnows (foreign rightEarlier rightOther rightKnows)
        · rcases mem_store rightStored with ⟨rfl, _⟩ | ⟨rightEarlier, rightOther⟩
          · exact absurd rightKnows (foreign leftEarlier leftOther leftKnows)
          · exact arrived.apart left leftEarlier right rightEarlier name leftKnows rightKnows

theorem offline_processed {result : Reply × SimulatedBridge}
    (processed : Processed supply request bridge result) :
    result.2.offline = bridge.offline := by
  have arrived : (bridge.arrival supply request).2.offline = bridge.offline := by
    unfold arrival locate
    cases request.conference.id <;> rfl
  cases processed with
  | refused condition missing => exact arrived
  | carried hosted contents minted present sameId known named => exact arrived

theorem received_processed {result : Reply × SimulatedBridge}
    (processed : Processed supply request bridge result) :
    result.2.received = bridge.received ++ [request] := by
  have arrived : (bridge.arrival supply request).2.received = bridge.received ++ [request] := by
    unfold arrival locate
    cases request.conference.id <;> rfl
  cases processed with
  | refused condition missing => exact arrived
  | carried hosted contents minted present sameId known named => exact arrived

theorem Processed.minted_id
    (known : ∀ id ∈ request.conference.id, Minted supply bridge.minted id.text)
    {reply : Conference} {after : SimulatedBridge}
    (processed : Processed supply request bridge (.conference reply, after)) :
    ∀ id ∈ reply.id, Minted supply after.minted id.text := by
  cases processed with
  | carried hosted contents minted present sameId known' named =>
      intro id replied
      obtain rfl := Option.some.inj replied
      rw [sameId]
      refine (minted_arrival_id known).mono ?_
      have counted := le_nameEntries supply
        (bridge.arrival supply request).2.minted request.conference.entries
      rwa [named] at counted

/-- A reply to a request without names lists fresh names only, one for each entry. -/
structure Anew (supply : Nat → String) (request : Request) (bridge : SimulatedBridge)
    (reply : Conference) (after : SimulatedBridge) : Prop where
  id : reply.id = some (bridge.arrival supply request).1
  fresh : ∀ name role, reply.Lists name role →
    ∃ index, bridge.minted ≤ index ∧ index < after.minted ∧ name = supply index
  roles : ∀ name left right, reply.Lists name left → reply.Lists name right → left = right
  complete : ∀ entry ∈ reply.entries, entry.name? ≠ none
  requested : ∀ entry ∈ reply.entries,
    ∃ asked ∈ request.conference.entries, entry.media? = asked.media?

theorem Processed.anew (distinct : Function.Injective supply)
    (unnamed : ∀ entry ∈ request.conference.entries, entry.name? = none) {reply : Conference}
    {after : SimulatedBridge}
    (processed : Processed supply request bridge (.conference reply, after)) :
    Anew supply request bridge reply after := by
  cases processed with
  | carried hosted contents minted present sameId known named =>
      have grown := minted_arrival supply request bridge
      refine ⟨congrArg some sameId, ?_, ?_, ?_, ?_⟩
      · intro name role listed
        obtain ⟨entry, within, sameName, _⟩ := Conference.lists_iff.mp listed
        obtain ⟨index, above, below, fresh⟩ := fresh_of_mem unnamed named within
        exact ⟨index, Nat.le_trans grown above, below,
          Option.some.inj (sameName.symm.trans fresh)⟩
      · intro name left right leftListed rightListed
        obtain ⟨leftEntry, leftWithin, leftName, rfl⟩ := Conference.lists_iff.mp leftListed
        obtain ⟨rightEntry, rightWithin, rightName, rfl⟩ := Conference.lists_iff.mp rightListed
        rw [eq_of_name?_eq distinct unnamed named leftWithin rightWithin
          (leftName.trans rightName.symm)]
      · intro entry within
        obtain ⟨index, _, _, fresh⟩ := fresh_of_mem unnamed named within
        exact fresh ▸ Option.some_ne_none _
      · intro entry within
        obtain ⟨asked, listed, origin⟩ := namedFrom_of_mem named within
        exact ⟨asked, listed, origin.media?⟩

theorem not_hosts_opened (id : ConferenceId) (name : String) (role : Role) :
    ¬ ({ id } : HostedConference).Hosts name role := by
  cases role <;> simp [HostedConference.Hosts]

theorem mem_of_hosts_arrival {other : HostedConference} {name : String} {role : Role}
    (present : other ∈ (bridge.arrival supply request).2.conferences)
    (alive : other.Hosts name role) : other ∈ bridge.conferences := by
  rcases mem_arrival present with earlier | ⟨_, rfl⟩
  · exact earlier
  · exact absurd alive (not_hosts_opened _ name role)

/-- A request that names all its entries, and nothing otherwise than it is alive,
brings nothing to life. -/
theorem Processed.hosts_before {result : Reply × SimulatedBridge}
    (processed : Processed supply request bridge result)
    (named : ∀ entry ∈ request.conference.entries, entry.name? ≠ none)
    (agrees : ∀ hosted ∈ bridge.conferences, ∀ entry ∈ request.conference.entries, ∀ name,
      entry.name? = some name → entry.expire? ≠ some 0 → hosted.knows name = true →
        hosted.Hosts name entry.role)
    {other : HostedConference} (stored : other ∈ result.2.conferences) {name : String}
    {role : Role} (alive : other.Hosts name role) :
    ∃ earlier ∈ bridge.conferences, earlier.id = other.id ∧ earlier.Hosts name role := by
  cases processed with
  | refused condition missing => exact ⟨other, mem_of_hosts_arrival stored alive, rfl, alive⟩
  | carried hosted contents minted present sameId known naming =>
      rcases mem_store stored with ⟨rfl, _⟩ | ⟨earlier, _⟩
      · rw [nameEntries_of_named _ named] at naming
        rw [HostedConference.apply_eq_foldl, ← (Prod.mk.inj naming).1] at alive
        have before : hosted.Hosts name role := by
          rcases HostedConference.hosts_of_hosts_foldl alive with
            before | ⟨entry, asked, sameName, rfl, lasts⟩
          · exact before
          · have knows := known entry asked name sameName lasts
            obtain ⟨other, other_alive⟩ := HostedConference.knows_iff.mp knows
            exact agrees hosted (mem_of_hosts_arrival present other_alive) entry asked name
              sameName lasts knows
        exact ⟨hosted, mem_of_hosts_arrival present before,
          (HostedConference.id_apply hosted contents).symm, before⟩
      · exact ⟨other, mem_of_hosts_arrival earlier alive, rfl, alive⟩

theorem Processed.filled {result : Reply × SimulatedBridge}
    (processed : Processed supply request bridge result) {id : ConferenceId}
    (asked : request.conference.id = some id) {other : HostedConference}
    (stored : other ∈ result.2.conferences) :
    other ∈ bridge.conferences ∨ other.isEmpty = false := by
  have arrived : (bridge.arrival supply request).2.conferences = bridge.conferences := by
    rw [bridge.arrival_of_id supply asked]
  cases processed with
  | refused condition missing => exact .inl (arrived ▸ stored)
  | carried hosted contents minted present sameId known naming =>
      rcases mem_store stored with ⟨rfl, filled⟩ | ⟨earlier, _⟩
      · exact .inr filled
      · exact .inl (arrived ▸ earlier)

section Answered

variable {reply : Conference} {after : SimulatedBridge}

theorem Processed.hosts_of_conference
    (processed : Processed supply request bridge (.conference reply, after))
    {other : HostedConference} (stored : other ∈ after.conferences) {name : String} {role : Role}
    (alive : other.Hosts name role) :
    reply.Lists name role ∨
      ∃ earlier ∈ bridge.conferences, earlier.id = other.id ∧ earlier.Hosts name role := by
  cases processed with
  | carried hosted contents minted present sameId known naming =>
      rcases mem_store stored with ⟨rfl, _⟩ | ⟨earlier, _⟩
      · rw [HostedConference.apply_eq_foldl] at alive
        rcases HostedConference.hosts_of_hosts_foldl alive with
          before | ⟨entry, within, named, sameRole, _⟩
        · exact .inr ⟨hosted, mem_of_hosts_arrival present before,
            (HostedConference.id_apply hosted contents).symm, before⟩
        · exact .inl (Conference.lists_iff.mpr ⟨entry, within, named, sameRole⟩)
      · exact .inr ⟨other, mem_of_hosts_arrival earlier alive, rfl, alive⟩

theorem Processed.filled_of_conference
    (processed : Processed supply request bridge (.conference reply, after))
    {other : HostedConference} (stored : other ∈ after.conferences)
    (replied : reply.id = some other.id) : other.isEmpty = false := by
  cases processed with
  | carried hosted contents minted present sameId known naming =>
      rcases mem_store stored with ⟨rfl, filled⟩ | ⟨_, different⟩
      · exact filled
      · rw [HostedConference.id_apply] at different
        exact absurd (Option.some.inj replied).symm different

end Answered

end SimulatedBridge

end ConferenceFocus.Simulation
