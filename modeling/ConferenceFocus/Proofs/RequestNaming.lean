import Mathlib.Data.List.Nodup
import ConferenceFocus.Proofs.ConferenceEntries
import ConferenceFocus.Simulation.SimulatedBridge

/-!
# Naming the entries of a request

A bridge names what has no name, in the order of the entries.  With a supply
that never repeats itself every name filled in is a fresh one, and no two
entries are given the same.
-/

namespace ConferenceFocus.Simulation

open Colibri

section Naming

def nameEntry (name : String) : Entry → Entry
  | .channel media channel => .channel media { channel with id := channel.id.or (some name) }
  | .connection media connection =>
      .connection media { connection with id := connection.id.or (some name) }
  | .bundle bundle => .bundle bundle
  | .bundleName id => .bundleName id

def nameEntries (supply : Nat → String) (used : Nat) : List Entry → List Entry × Nat
  | [] => ([], used)
  | entry :: rest =>
      let next := if entry.name?.isNone then used + 1 else used
      let (named, last) := nameEntries supply next rest
      (nameEntry (supply used) entry :: named, last)

variable (supply : Nat → String)

theorem nameEntries_append (used : Nat) (left right : List Entry) :
    nameEntries supply used (left ++ right) =
      ((nameEntries supply used left).1 ++
          (nameEntries supply (nameEntries supply used left).2 right).1,
        (nameEntries supply (nameEntries supply used left).2 right).2) := by
  induction left generalizing used with
  | nil => rfl
  | cons entry rest ih => simp only [List.cons_append, nameEntries, ih]

theorem nameEntries_channels (media : MediaType) (used : Nat) (channels : List Channel) :
    nameEntries supply used (channels.map (.channel media)) =
      ((nameChannels supply used channels).1.map (.channel media),
        (nameChannels supply used channels).2) := by
  induction channels generalizing used with
  | nil => rfl
  | cons channel rest ih =>
      simp only [List.map_cons, nameEntries, nameChannels, nameEntry, Entry.name?, ih]
      rfl

theorem nameEntries_connections (media : MediaType) (used : Nat)
    (connections : List SctpConnection) :
    nameEntries supply used (connections.map (.connection media)) =
      ((nameConnections supply used connections).1.map (.connection media),
        (nameConnections supply used connections).2) := by
  induction connections generalizing used with
  | nil => rfl
  | cons connection rest ih =>
      simp only [List.map_cons, nameEntries, nameConnections, nameEntry, Entry.name?, ih]
      rfl

theorem nameEntries_entriesOf (used : Nat) (contents : List Content) :
    nameEntries supply used (entriesOf contents) =
      (entriesOf (nameContents supply used contents).1,
        (nameContents supply used contents).2) := by
  induction contents generalizing used with
  | nil => rfl
  | cons content rest ih =>
      simp only [entriesOf_cons, Content.entries, nameEntries_append, nameEntries_channels,
        nameEntries_connections, ih, nameContents]

variable {supply}

theorem le_nameEntries (supply : Nat → String) (used : Nat) (entries : List Entry) :
    used ≤ (nameEntries supply used entries).2 := by
  induction entries generalizing used with
  | nil => exact Nat.le_refl used
  | cons entry rest ih =>
      refine Nat.le_trans ?_ (ih _)
      split <;> omega

theorem nameEntry_of_named {entry : Entry} (name : String) (named : entry.name? ≠ none) :
    nameEntry name entry = entry := by
  cases entry with
  | bundle | bundleName => rfl
  | channel media channel =>
      have kept : channel.id.or (some name) = channel.id :=
        Option.or_of_isSome (Option.isSome_iff_ne_none.mpr named)
      rw [nameEntry, kept]
  | connection media connection =>
      have kept : connection.id.or (some name) = connection.id :=
        Option.or_of_isSome (Option.isSome_iff_ne_none.mpr named)
      rw [nameEntry, kept]

theorem name?_nameEntry {entry : Entry} (name : String) (unnamed : entry.name? = none) :
    (nameEntry name entry).name? = some name := by
  cases entry with
  | bundle | bundleName => cases unnamed
  | channel | connection =>
      simp only [Entry.name?] at unnamed
      simp [nameEntry, Entry.name?, unnamed]

theorem nameEntries_of_named (used : Nat) {entries : List Entry}
    (named : ∀ entry ∈ entries, entry.name? ≠ none) :
    nameEntries supply used entries = (entries, used) := by
  induction entries with
  | nil => rfl
  | cons entry rest ih =>
      have head := named entry List.mem_cons_self
      have counted : (if entry.name?.isNone then used + 1 else used) = used := by
        simp [head]
      simp only [nameEntries, counted, nameEntry_of_named _ head,
        ih fun other later => named other (List.mem_cons_of_mem entry later)]

/-- How a named entry comes from the one that was asked for: all but its name is
kept, and its name too if it had one; otherwise the name is a fresh one. -/
structure NamedFrom (supply : Nat → String) (used last : Nat) (asked entry : Entry) : Prop where
  role : entry.role = asked.role
  media? : entry.media? = asked.media?
  expire? : entry.expire? = asked.expire?
  name? : asked.name? ≠ none ∧ entry = asked ∨
    asked.name? = none ∧ ∃ index, used ≤ index ∧ index < last ∧ entry.name? = some (supply index)

theorem namedFrom_of_mem_nameEntries {used : Nat} {entries : List Entry} {entry : Entry}
    (listed : entry ∈ (nameEntries supply used entries).1) :
    ∃ asked ∈ entries,
      NamedFrom supply used (nameEntries supply used entries).2 asked entry := by
  induction entries generalizing used with
  | nil => cases listed
  | cons first rest ih =>
      rcases List.mem_cons.mp listed with rfl | later
      · refine ⟨first, List.mem_cons_self, ?_, ?_, ?_, ?_⟩
        · cases first <;> rfl
        · cases first <;> rfl
        · cases first <;> rfl
        · cases unnamed : first.name? with
          | some name =>
              exact .inl ⟨Option.some_ne_none name, nameEntry_of_named _ (by simp [unnamed])⟩
          | none =>
              refine .inr ⟨rfl, used, Nat.le_refl used, ?_, name?_nameEntry _ unnamed⟩
              have counted := le_nameEntries supply (used + 1) rest
              simp only [nameEntries, unnamed, Option.isNone_none, if_true]
              omega
      · obtain ⟨asked, present, origin⟩ := ih later
        refine ⟨asked, List.mem_cons_of_mem first present, origin.role, origin.media?,
          origin.expire?, ?_⟩
        refine origin.name?.imp_right fun fresh => ?_
        obtain ⟨unnamed, index, above, below, named⟩ := fresh
        refine ⟨unnamed, index, Nat.le_trans ?_ above, below, named⟩
        split <;> omega

theorem namedFrom_of_mem {used last : Nat} {asked named : List Entry}
    (naming : nameEntries supply used asked = (named, last)) {entry : Entry}
    (listed : entry ∈ named) :
    ∃ original ∈ asked, NamedFrom supply used last original entry := by
  have origin := namedFrom_of_mem_nameEntries (by rw [naming]; exact listed)
  rwa [naming] at origin

theorem nodup_nameEntries (distinct : Function.Injective supply) (used : Nat)
    {entries : List Entry} (unnamed : ∀ entry ∈ entries, entry.name? = none) :
    ((nameEntries supply used entries).1.map Entry.name?).Nodup := by
  induction entries generalizing used with
  | nil => exact List.nodup_nil
  | cons first rest ih =>
      have head := unnamed first List.mem_cons_self
      have restUnnamed := fun other later => unnamed other (List.mem_cons_of_mem first later)
      simp only [nameEntries, head, Option.isNone_none, if_true, List.map_cons, List.nodup_cons,
        name?_nameEntry _ head]
      refine ⟨?_, ih (used + 1) restUnnamed⟩
      intro repeated
      obtain ⟨entry, listed, named⟩ := List.mem_map.mp repeated
      obtain ⟨asked, present, origin⟩ := namedFrom_of_mem_nameEntries listed
      rcases origin.name? with ⟨named, _⟩ | ⟨_, index, above, _, fresh⟩
      · exact named (restUnnamed asked present)
      · have same := distinct (Option.some.inj (fresh.symm.trans named))
        omega

theorem fresh_of_mem {used last : Nat} {asked named : List Entry}
    (unnamed : ∀ entry ∈ asked, entry.name? = none)
    (naming : nameEntries supply used asked = (named, last)) {entry : Entry}
    (listed : entry ∈ named) :
    ∃ index, used ≤ index ∧ index < last ∧ entry.name? = some (supply index) := by
  obtain ⟨original, present, origin⟩ := namedFrom_of_mem naming listed
  rcases origin.name? with ⟨impossible, _⟩ | ⟨_, fresh⟩
  · exact absurd (unnamed original present) impossible
  · exact fresh

theorem eq_of_name?_eq (distinct : Function.Injective supply) {used last : Nat}
    {asked named : List Entry} (unnamed : ∀ entry ∈ asked, entry.name? = none)
    (naming : nameEntries supply used asked = (named, last)) {left right : Entry}
    (leftListed : left ∈ named) (rightListed : right ∈ named)
    (same : left.name? = right.name?) : left = right := by
  have different := nodup_nameEntries distinct used unnamed
  rw [naming] at different
  exact List.inj_on_of_nodup_map different leftListed rightListed same

end Naming

/-- A name is minted once the supply has been used up to it. -/
def Minted (supply : Nat → String) (count : Nat) (name : String) : Prop :=
  ∃ index, index < count ∧ name = supply index

theorem Minted.mono {supply : Nat → String} {count more : Nat} {name : String}
    (minted : Minted supply count name) (grown : count ≤ more) : Minted supply more name := by
  obtain ⟨index, below, rfl⟩ := minted
  exact ⟨index, Nat.lt_of_lt_of_le below grown, rfl⟩

theorem not_minted_of_le {supply : Nat → String} (distinct : Function.Injective supply)
    {count index : Nat} (above : count ≤ index) : ¬ Minted supply count (supply index) := by
  intro minted
  obtain ⟨other, below, same⟩ := minted
  have := distinct same
  omega

/-- A supply of names that differ in their length. -/
def tally (index : Nat) : String := String.ofList (List.replicate index 'x')

theorem tally_injective : Function.Injective tally := by
  intro left right same
  have lengths := congrArg String.length same
  simpa [tally] using lengths

end ConferenceFocus.Simulation
