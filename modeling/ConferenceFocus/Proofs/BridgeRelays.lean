import Mathlib.Data.List.Flatten
import ConferenceFocus.Proofs.BridgeRequests

/-!
# What a bridge relays

The channels and connections of a bridge, read as one list.  A request that names
only what is alive takes away or changes what it names, and nothing else.  A
request that names nothing adds one relay for each of its entries.
-/

namespace ConferenceFocus.Simulation

open Colibri Control

/-- A channel or a connection that is alive. -/
inductive Relay where
  | channel (body : HostedChannel)
  | connection (body : HostedConnection)
  deriving DecidableEq, Repr

namespace Relay

def name : Relay → String
  | .channel body => body.id
  | .connection body => body.id

def role : Relay → Role
  | .channel body => .channel body.media
  | .connection _ => .connection

/-- What tells relays of one conference apart. -/
def label (relay : Relay) : String × Role :=
  (relay.name, relay.role)

/-- What comes to life for an entry that opens something. -/
def ofEntry? : Entry → Option Relay
  | .channel media body =>
      body.id.map fun id => .channel
        { id, media, endpoint := body.endpoint, direction := body.direction,
          sources := body.sources, groups := body.groups.filter (!·.isEmpty) }
  | .connection _ body => body.id.map fun id => .connection { id, endpoint := body.endpoint }
  | .bundle _ | .bundleName _ => none

end Relay

/-- Whether an entry has sources of its own, rather than the marker for none. -/
def Plain : Entry → Prop
  | .channel _ body => ∀ source ∈ body.sources.head?, source.isRemoveAll = false
  | .connection _ _ | .bundle _ | .bundleName _ => True

namespace HostedConference

def relays (hosted : HostedConference) : List Relay :=
  hosted.channels.map .channel ++ hosted.connections.map .connection

theorem relays_of_isEmpty {hosted : HostedConference} (empty : hosted.isEmpty = true) :
    hosted.relays = [] := by
  simp only [isEmpty, Bool.and_eq_true, List.isEmpty_iff] at empty
  simp [relays, empty.1, empty.2]

theorem filter_relays (hosted : HostedConference) (keep : Relay → Bool) :
    hosted.relays.filter keep =
      (hosted.channels.filter fun body => keep (.channel body)).map .channel ++
        (hosted.connections.filter fun body => keep (.connection body)).map .connection := by
  simp only [relays, List.filter_append, List.filter_map, Function.comp_def]

/-- Nothing has come to life, and what does not go by these names is as it was. -/
structure Narrows (names : List String) (before after : HostedConference) : Prop where
  labels : (after.relays.map Relay.label).Sublist (before.relays.map Relay.label)
  spared : after.relays.filter (·.name ∉ names) = before.relays.filter (·.name ∉ names)

theorem Narrows.refl (names : List String) (hosted : HostedConference) :
    Narrows names hosted hosted :=
  ⟨List.Sublist.refl _, rfl⟩

theorem Narrows.trans {names : List String} {first second third : HostedConference}
    (earlier : Narrows names first second) (later : Narrows names second third) :
    Narrows names first third :=
  ⟨later.labels.trans earlier.labels, later.spared.trans earlier.spared⟩

section Narrowing

variable {names : List String} {before after : HostedConference}

theorem Narrows.of_channels (sameConnections : after.connections = before.connections)
    (labels : (after.channels.map fun body => (body.id, body.media)).Sublist
      (before.channels.map fun body => (body.id, body.media)))
    (spared : after.channels.filter (·.id ∉ names) = before.channels.filter (·.id ∉ names)) :
    Narrows names before after where
  labels := by
    have labelled (channels : List HostedChannel) :
        (channels.map Relay.channel).map Relay.label =
          (channels.map fun body => (body.id, body.media)).map fun pair =>
            (pair.1, Role.channel pair.2) := by
      rw [List.map_map, List.map_map]
      rfl
    rw [relays, relays, List.map_append, List.map_append, sameConnections, labelled, labelled]
    exact (labels.map _).append_right _
  spared := by
    rw [filter_relays, filter_relays, sameConnections]
    exact congrArg (fun kept => kept.map Relay.channel ++ _) spared

theorem Narrows.of_connections (sameChannels : after.channels = before.channels)
    (labels : after.connections.Sublist before.connections)
    (spared : after.connections.filter (·.id ∉ names) =
      before.connections.filter (·.id ∉ names)) :
    Narrows names before after where
  labels := by
    rw [relays, relays, sameChannels]
    exact ((labels.map _).append_left _).map _
  spared := by
    rw [filter_relays, filter_relays, sameChannels]
    exact congrArg (fun kept => _ ++ kept.map Relay.connection) spared

variable {hosted : HostedConference} {entry : Entry} {entries : List Entry} {name : String}

theorem spares_of_listed {other : String} (listed : name ∈ names)
    (unlisted : decide (other ∉ names) = true) : other ≠ name := by
  intro same
  exact of_decide_eq_true unlisted (same ▸ listed)

theorem narrows_of_expires (expires : entry.expire? = some 0) (named : entry.name? = some name)
    (listed : name ∈ names) : Narrows names hosted (hosted.applyEntry entry) := by
  cases entry with
  | bundle | bundleName => exact .refl names hosted
  | channel media channel =>
      simp only [Entry.name?, Entry.expire?] at named expires
      simp only [applyEntry, applyChannel, named, expires, if_true]
      refine .of_channels rfl (List.filter_sublist.map _)
        (Keyed.filter_erase fun body unlisted => ?_)
      exact spares_of_listed listed unlisted
  | connection media connection =>
      simp only [Entry.name?, Entry.expire?] at named expires
      simp only [applyEntry, applyConnection, named, expires, if_true]
      refine .of_connections rfl List.filter_sublist (Keyed.filter_erase fun body unlisted => ?_)
      exact spares_of_listed listed unlisted

theorem narrows_of_alive (lasts : entry.expire? ≠ some 0) (named : entry.name? = some name)
    (listed : name ∈ names) (alive : hosted.Hosts name entry.role) :
    Narrows names hosted (hosted.applyEntry entry) := by
  cases entry with
  | bundle | bundleName => exact .refl names hosted
  | channel media channel =>
      obtain ⟨body, present, sameName, _⟩ := alive
      simp only [Entry.name?, Entry.expire?] at named lasts
      have taken : Keyed.holds hosted.channels name = true :=
        Keyed.holds_iff.mpr ⟨body, present, sameName⟩
      simp only [applyEntry, applyChannel, named, if_neg lasts]
      rw [Keyed.append_of_holds taken]
      refine .of_channels rfl ?_ (Keyed.filter_adjust (fun _ => rfl) fun body unlisted => ?_)
      · dsimp only
        rw [Keyed.map_adjust _ (fun body : HostedChannel => body.update channel) fun _ => rfl]
      · exact spares_of_listed listed unlisted
  | connection media connection =>
      obtain ⟨body, present, sameName⟩ := alive
      simp only [Entry.name?, Entry.expire?] at named lasts
      have taken : Keyed.holds hosted.connections name = true :=
        Keyed.holds_iff.mpr ⟨body, present, sameName⟩
      simp only [applyEntry, applyConnection, named, if_neg lasts]
      rw [Keyed.append_of_holds taken]
      exact .refl names hosted

theorem narrows_foldl_of_expires (expires : ∀ entry ∈ entries, entry.expire? = some 0)
    (listed : ∀ entry ∈ entries, ∃ name ∈ names, entry.name? = some name) :
    Narrows names hosted (entries.foldl applyEntry hosted) := by
  induction entries generalizing hosted with
  | nil => exact .refl names hosted
  | cons entry rest ih =>
      obtain ⟨expiresNow, expiresLater⟩ := List.forall_mem_cons.mp expires
      obtain ⟨⟨name, listedNow, named⟩, listedLater⟩ := List.forall_mem_cons.mp listed
      exact (narrows_of_expires expiresNow named listedNow).trans (ih expiresLater listedLater)

theorem narrows_foldl_of_alive (lasts : ∀ entry ∈ entries, entry.expire? ≠ some 0)
    (listed : ∀ entry ∈ entries, ∃ name ∈ names, entry.name? = some name)
    (alive : ∀ entry ∈ entries, ∀ name, entry.name? = some name → hosted.Hosts name entry.role) :
    Narrows names hosted (entries.foldl applyEntry hosted) := by
  induction entries generalizing hosted with
  | nil => exact .refl names hosted
  | cons entry rest ih =>
      obtain ⟨lastsNow, lastsLater⟩ := List.forall_mem_cons.mp lasts
      obtain ⟨⟨name, listedNow, named⟩, listedLater⟩ := List.forall_mem_cons.mp listed
      obtain ⟨aliveNow, aliveLater⟩ := List.forall_mem_cons.mp alive
      refine (narrows_of_alive lastsNow named listedNow (aliveNow name named)).trans
        (ih lastsLater listedLater fun other later otherName otherNamed => ?_)
      exact hosts_applyEntry_of_hosts lastsNow (aliveLater other later otherName otherNamed)

end Narrowing

section Opening

variable {hosted : HostedConference} {entry : Entry} {entries : List Entry}

theorem updatedSources_nil {update : List Source}
    (plain : ∀ source ∈ update.head?, source.isRemoveAll = false) :
    updatedSources [] update = update := by
  cases update with
  | nil => rfl
  | cons first rest => exact if_neg (Bool.eq_false_iff.mp (plain first rfl))

theorem updatedGroups_nil (update : List SourceGroup) :
    updatedGroups [] update = update.filter (!·.isEmpty) := by
  unfold updatedGroups
  cases update.filter (!·.isEmpty) <;> rfl

/-- An entry that names what is not known opens it. -/
theorem perm_relays_applyEntry (plain : Plain entry) (lasts : entry.expire? ≠ some 0)
    (unknown : ∀ name, entry.name? = some name → hosted.knows name = false) :
    (hosted.applyEntry entry).relays.Perm (hosted.relays ++ (Relay.ofEntry? entry).toList) := by
  cases entry with
  | bundle | bundleName => exact .of_eq (List.append_nil _).symm
  | channel media channel =>
      simp only [Entry.expire?] at lasts
      cases named : channel.id with
      | none =>
          simp only [applyEntry, applyChannel, Relay.ofEntry?, named]
          exact .of_eq (List.append_nil _).symm
      | some name =>
          have free := Bool.eq_false_iff.mp (Bool.or_eq_false_iff.mp (unknown name named)).1
          let body : HostedChannel := { id := name, media, endpoint := channel.endpoint }
          have opened : Keyed.adjust (Keyed.append hosted.channels body) name (·.update channel) =
              hosted.channels ++ [body.update channel] :=
            Keyed.adjust_append_of_free _ free
          have updated : body.update channel =
              { id := name, media, endpoint := channel.endpoint, direction := channel.direction,
                sources := channel.sources, groups := channel.groups.filter (!·.isEmpty) } := by
            simp only [HostedChannel.update, body, Option.or_none, updatedSources_nil plain,
              updatedGroups_nil]
          simp only [applyEntry, applyChannel, Relay.ofEntry?, named, if_neg lasts, relays]
          rw [opened, updated, List.map_append, List.append_assoc, List.append_assoc]
          exact List.perm_append_comm.append_left _
  | connection media connection =>
      simp only [Entry.expire?] at lasts
      cases named : connection.id with
      | none =>
          simp only [applyEntry, applyConnection, Relay.ofEntry?, named]
          exact .of_eq (List.append_nil _).symm
      | some name =>
          have free := Bool.eq_false_iff.mp (Bool.or_eq_false_iff.mp (unknown name named)).2
          let body : HostedConnection := { id := name, endpoint := connection.endpoint }
          have opened : Keyed.append hosted.connections body = hosted.connections ++ [body] :=
            Keyed.append_of_not_holds free
          simp only [applyEntry, applyConnection, Relay.ofEntry?, named, if_neg lasts, relays]
          rw [opened, List.map_append, List.append_assoc]
          exact .refl _

theorem perm_relays_foldl (plain : ∀ entry ∈ entries, Plain entry)
    (lasts : ∀ entry ∈ entries, entry.expire? ≠ some 0)
    (distinct : (entries.map Entry.name?).Nodup)
    (unknown : ∀ entry ∈ entries, ∀ name, entry.name? = some name → hosted.knows name = false) :
    (entries.foldl applyEntry hosted).relays.Perm
      (hosted.relays ++ entries.filterMap Relay.ofEntry?) := by
  induction entries generalizing hosted with
  | nil => exact .of_eq (List.append_nil _).symm
  | cons entry rest ih =>
      obtain ⟨plainNow, plainLater⟩ := List.forall_mem_cons.mp plain
      obtain ⟨lastsNow, lastsLater⟩ := List.forall_mem_cons.mp lasts
      obtain ⟨unknownNow, unknownLater⟩ := List.forall_mem_cons.mp unknown
      rw [List.map_cons, List.nodup_cons] at distinct
      -- What the first entry opens goes by a name that the rest does not use.
      have stillUnknown : ∀ other ∈ rest, ∀ name, other.name? = some name →
          (hosted.applyEntry entry).knows name = false := by
        intro other later name named
        apply Bool.eq_false_iff.mpr
        intro known
        obtain ⟨role, alive⟩ := knows_iff.mp known
        rcases hosts_of_hosts_applyEntry alive with before | ⟨same, _, _⟩
        · have knew := knows_iff.mpr ⟨role, before⟩
          rw [unknownLater other later name named] at knew
          cases knew
        · apply distinct.1
          rw [same, ← named]
          exact List.mem_map_of_mem later
      have first := perm_relays_applyEntry plainNow lastsNow unknownNow
      refine (ih plainLater lastsLater distinct.2 stillUnknown).trans ?_
      refine (first.append_right _).trans (.of_eq ?_)
      rw [List.append_assoc, List.filterMap_cons]
      cases Relay.ofEntry? entry <;> rfl

end Opening

end HostedConference

namespace SimulatedBridge

variable {supply : Nat → String} {bridge : SimulatedBridge} {request : Request}

/-- All that a bridge relays, with the conference it belongs to. -/
def relays (bridge : SimulatedBridge) : List (ConferenceId × Relay) :=
  bridge.conferences.flatMap fun hosted => hosted.relays.map (hosted.id, ·)

/-- No two conferences of a bridge go by the same name. -/
def DistinctIds (bridge : SimulatedBridge) : Prop :=
  (bridge.conferences.map (·.id)).Nodup

/-- Nothing has come to life on the bridge, and what does not go by these names is
as it was. -/
structure Narrows (names : List String) (before after : SimulatedBridge) : Prop where
  labels : (after.relays.map fun located => (located.1, located.2.label)).Sublist
    (before.relays.map fun located => (located.1, located.2.label))
  spared : after.relays.filter (fun located => located.2.name ∉ names) =
    before.relays.filter fun located => located.2.name ∉ names

theorem Narrows.of_relays_eq {names : List String} {before after : SimulatedBridge}
    (same : after.relays = before.relays) : Narrows names before after := by
  constructor <;> rw [same]

theorem relays_arrival (supply : Nat → String) (request : Request) (bridge : SimulatedBridge) :
    (bridge.arrival supply request).2.relays = bridge.relays := by
  unfold arrival locate
  cases request.conference.id with
  | some id => rfl
  | none =>
      unfold relays Keyed.append
      dsimp only
      split
      · rfl
      · rw [List.flatMap_append]
        exact List.append_nil _

theorem distinctIds_arrival (distinct : bridge.DistinctIds) :
    (bridge.arrival supply request).2.DistinctIds := by
  unfold arrival locate
  cases request.conference.id with
  | some id => exact distinct
  | none => exact Keyed.nodup_append distinct _

theorem distinctIds_store (distinct : bridge.DistinctIds) (hosted : HostedConference) :
    (bridge.store hosted).DistinctIds := by
  unfold store DistinctIds
  dsimp only
  split
  · exact (List.filter_sublist.map _).nodup distinct
  · have sameIds : (Keyed.adjust bridge.conferences hosted.id fun _ => hosted).map (·.id) =
        bridge.conferences.map (·.id) := by
      rw [Keyed.adjust, List.map_map]
      refine List.map_congr_left fun other _ => ?_
      rw [Function.comp_apply]
      split
      · next same => exact same.symm
      · rfl
    rw [sameIds]
    exact distinct

theorem distinctIds_processed (distinct : bridge.DistinctIds) {result : Reply × SimulatedBridge}
    (processed : Processed supply request bridge result) : result.2.DistinctIds := by
  cases processed with
  | refused => exact distinctIds_arrival distinct
  | carried =>
      have arrived : (bridge.arrival supply request).2.DistinctIds := distinctIds_arrival distinct
      exact distinctIds_store arrived _

/-- What is relayed once a conference is put back: its new relays stand where the
conference stands. -/
theorem relays_store (bridge : SimulatedBridge) (hosted : HostedConference) :
    (bridge.store hosted).relays = bridge.conferences.flatMap fun other =>
      (if other.id = hosted.id then hosted else other).relays.map (other.id, ·) := by
  unfold store relays
  dsimp only
  split
  · next empty =>
      have nothing := HostedConference.relays_of_isEmpty empty
      induction bridge.conferences with
      | nil => rfl
      | cons other rest ih =>
          rw [List.flatMap_cons, ← ih, Keyed.erase, Keyed.erase]
          by_cases same : other.id = hosted.id
          · rw [List.filter_cons_of_neg (by simpa [Keyed.key] using same), if_pos same, nothing]
            rfl
          · rw [List.filter_cons_of_pos (by simpa [Keyed.key] using same), if_neg same,
              List.flatMap_cons]
  · rw [Keyed.adjust, List.flatMap_map]
    refine List.flatMap_congr fun other _ => ?_
    by_cases same : other.id = hosted.id
    · rw [if_pos same, if_pos (show Keyed.key other = hosted.id from same), same]
    · rw [if_neg same, if_neg (show ¬ Keyed.key other = hosted.id from same)]

/-- With distinct conferences, only the one that is put back can have changed. -/
theorem narrows_store {names : List String} (distinct : bridge.DistinctIds)
    {earlier hosted : HostedConference} (present : earlier ∈ bridge.conferences)
    (sameId : hosted.id = earlier.id) (narrows : earlier.Narrows names hosted) :
    bridge.Narrows names (bridge.store hosted) := by
  -- Conference by conference: either nothing has changed, or it is the one put back.
  have each (other : HostedConference) (listed : other ∈ bridge.conferences) :
      other.Narrows names (if other.id = hosted.id then hosted else other) := by
    by_cases same : other.id = hosted.id
    · rw [if_pos same, List.inj_on_of_nodup_map distinct listed present (same.trans sameId)]
      exact narrows
    · rw [if_neg same]
      exact .refl names other
  constructor
  · rw [relays_store, relays, List.map_flatMap, List.map_flatMap]
    refine List.Sublist.flatMap_right _ fun other listed => ?_
    have labels := (each other listed).labels.map (other.id, ·)
    simpa only [List.map_map, Function.comp_def] using labels
  · rw [relays_store, relays, List.filter_flatMap, List.filter_flatMap]
    refine List.flatMap_congr fun other listed => ?_
    have spared := congrArg (List.map (other.id, ·)) (each other listed).spared
    simpa only [List.filter_map, Function.comp_def] using spared

/-- With distinct conferences, what a conference gains the bridge gains. -/
theorem perm_relays_store (distinct : bridge.DistinctIds) {earlier hosted : HostedConference}
    (present : earlier ∈ bridge.conferences) (sameId : hosted.id = earlier.id)
    {opened : List Relay} (opens : hosted.relays.Perm (earlier.relays ++ opened)) :
    (bridge.store hosted).relays.Perm (bridge.relays ++ opened.map (hosted.id, ·)) := by
  obtain ⟨front, back, split⟩ := List.append_of_mem present
  unfold DistinctIds at distinct
  rw [split, List.map_append, List.map_cons, List.nodup_middle, List.nodup_cons,
    List.mem_append, not_or] at distinct
  obtain ⟨⟨notInFront, notInBack⟩, _⟩ := distinct
  -- On both sides of the conference put back all is as it was.
  have same (others : List HostedConference)
      (absent : earlier.id ∉ others.map fun other : HostedConference => other.id) :
      (others.flatMap fun other =>
          (if other.id = hosted.id then hosted else other).relays.map (other.id, ·)) =
        others.flatMap fun other => other.relays.map (other.id, ·) := by
    refine List.flatMap_congr fun other listed => ?_
    rw [if_neg]
    intro sameAsHosted
    apply absent
    rw [← sameId, ← sameAsHosted]
    exact List.mem_map_of_mem listed
  have gained : (hosted.relays.map (earlier.id, ·)).Perm
      (earlier.relays.map (earlier.id, ·) ++ opened.map (hosted.id, ·)) := by
    rw [sameId, ← List.map_append]
    exact opens.map _
  rw [relays_store, relays, split, List.flatMap_append, List.flatMap_append, List.flatMap_cons,
    List.flatMap_cons, same front notInFront, same back notInBack, if_pos sameId.symm,
    List.append_assoc, List.append_assoc]
  refine List.Perm.append_left _ ((gained.append_right _).trans ?_)
  rw [List.append_assoc]
  exact List.perm_append_comm.append_left _

/-- A request that names nothing opens one relay for each of its entries. -/
theorem Processed.perm_relays {reply : Conference} {after : SimulatedBridge}
    (processed : Processed supply request bridge (.conference reply, after))
    (distinct : Function.Injective supply) (sound : bridge.Sound supply)
    (distinctIds : bridge.DistinctIds)
    (unnamed : ∀ entry ∈ request.conference.entries, entry.name? = none)
    (lasts : ∀ entry ∈ request.conference.entries, entry.expire? ≠ some 0)
    (plain : ∀ entry ∈ reply.entries, Plain entry) :
    after.relays.Perm (bridge.relays ++
      (reply.entries.filterMap Relay.ofEntry?).map ((bridge.arrival supply request).1, ·)) := by
  cases processed with
  | carried hosted contents minted present sameId known naming =>
      have arrived : DistinctIds { (bridge.arrival supply request).2 with minted } :=
        distinctIds_arrival distinctIds
      replace plain : ∀ entry ∈ entriesOf contents, Plain entry := plain
      have lastsNamed : ∀ entry ∈ entriesOf contents, entry.expire? ≠ some 0 := by
        intro entry listed
        obtain ⟨asked, within, origin⟩ := namedFrom_of_mem naming listed
        rw [origin.expire?]
        exact lasts asked within
      have distinctNames : ((entriesOf contents).map Entry.name?).Nodup := by
        have nodup := nodup_nameEntries distinct (bridge.arrival supply request).2.minted unnamed
        rwa [naming] at nodup
      have unknown : ∀ entry ∈ entriesOf contents, ∀ name, entry.name? = some name →
          hosted.knows name = false := by
        intro entry listed name sameName
        obtain ⟨index, above, _, fresh⟩ := fresh_of_mem unnamed naming listed
        obtain rfl := Option.some.inj (sameName.symm.trans fresh)
        apply Bool.eq_false_iff.mpr
        intro knows
        exact not_minted_of_le distinct above
          ((sound_arrival sound).minted hosted present _ knows)
      have opens := hosted.perm_relays_foldl plain lastsNamed distinctNames unknown
      rw [← HostedConference.apply_eq_foldl] at opens
      have stored := perm_relays_store arrived present (hosted.id_apply contents) opens
      rw [hosted.id_apply contents, sameId] at stored
      exact relays_arrival supply request bridge ▸ stored

/-- A request that names only what goes by these names narrows the bridge, whether it
is refused or carried out: if it expires what it names, or if all it names is alive
as what it takes it for. -/
theorem Processed.narrows {result : Reply × SimulatedBridge}
    (processed : Processed supply request bridge result) (distinct : bridge.DistinctIds)
    {names : List String}
    (listed : ∀ entry ∈ request.conference.entries, ∃ name ∈ names, entry.name? = some name)
    (uniform : (∀ entry ∈ request.conference.entries, entry.expire? = some 0) ∨
      ∀ entry ∈ request.conference.entries, entry.expire? ≠ some 0)
    (agrees : ∀ hosted ∈ bridge.conferences, ∀ entry ∈ request.conference.entries, ∀ name,
      entry.name? = some name → entry.expire? ≠ some 0 → hosted.knows name = true →
        hosted.Hosts name entry.role) : bridge.Narrows names result.2 := by
  cases processed with
  | refused => exact .of_relays_eq (relays_arrival supply request bridge)
  | carried hosted contents minted present sameId known naming =>
      have named : ∀ entry ∈ request.conference.entries, entry.name? ≠ none := by
        intro entry asked
        obtain ⟨name, _, named⟩ := listed entry asked
        exact named ▸ Option.some_ne_none name
      rw [nameEntries_of_named _ named] at naming
      have entries := (Prod.mk.inj naming).1
      have narrows : hosted.Narrows names (hosted.apply contents) := by
        rw [HostedConference.apply_eq_foldl, ← entries]
        rcases uniform with expires | lasts
        · exact HostedConference.narrows_foldl_of_expires expires listed
        · refine HostedConference.narrows_foldl_of_alive lasts listed
            fun entry asked name same => ?_
          have knows := known entry asked name same (lasts entry asked)
          obtain ⟨role, alive⟩ := HostedConference.knows_iff.mp knows
          exact agrees hosted (mem_of_hosts_arrival present alive) entry asked name same
            (lasts entry asked) knows
      have arrived : DistinctIds { (bridge.arrival supply request).2 with minted } :=
        distinctIds_arrival distinct
      have stored := narrows_store arrived present (hosted.id_apply contents) narrows
      exact ⟨relays_arrival supply request bridge ▸ stored.labels,
        relays_arrival supply request bridge ▸ stored.spared⟩

end SimulatedBridge

end ConferenceFocus.Simulation
