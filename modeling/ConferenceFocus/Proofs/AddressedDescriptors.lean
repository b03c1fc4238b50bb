import ConferenceFocus.Proofs.GatheredIntents
import ConferenceFocus.Proofs.IntentEntries

/-!
# What updates address

An update names the channels and connections of a descriptor.  It finds each of them under
its own medium and kind, also when contents repeat a medium or hold entries that have no
identifier yet.  An expiry and a replacement of streams reach all that they are meant for,
once and in order.
-/

namespace ConferenceFocus.Colibri

namespace Conference

/-- The identifiers of one slot, in whichever content they are. -/
def idsAt (conference : Conference) : Slot → List String
  | .channels media => conference.channelIdsFor media
  | .connections media => conference.connectionIdsFor media

end Conference

namespace Entry

variable {entry : Entry}

theorem role_ne_bundle_of_media {media : MediaType} (standing : entry.media? = some media) :
    entry.role ≠ .bundle := by
  cases entry with
  | channel | connection => exact Role.noConfusion
  | bundle | bundleName => cases standing

theorem exists_slot_of_role (proper : entry.role ≠ .bundle) :
    ∃ slot, entry.slot? = some slot := by
  cases entry with
  | channel media channel => exact ⟨.channels media, rfl⟩
  | connection media connection => exact ⟨.connections media, rfl⟩
  | bundle | bundleName => exact absurd rfl proper

end Entry

section Slots

/-- Only contents of its own medium put anything into a slot. -/
theorem inSlot_flatMap (slot : Slot) {say : Content → List Entry}
    (own : ∀ content, ∀ entry ∈ say content, entry.media? = some content.media)
    (contents : List Content) :
    inSlot slot (contents.flatMap say) =
      (contents.filter (·.media = slot.media)).flatMap fun content =>
        inSlot slot (say content) := by
  induction contents with
  | nil => rfl
  | cons first rest ih =>
      rw [List.flatMap_cons, inSlot_append, ih]
      by_cases same : first.media = slot.media
      · rw [List.filter_cons, if_pos (decide_eq_true same), List.flatMap_cons]
      · rw [List.filter_cons, if_neg (by simpa using same),
          inSlot_eq_nil_of_media (Ne.symm same) (own first), List.nil_append]

/-- What is asked for each identifier is asked in the order in which they stand. -/
theorem inSlot_flatMap_eq_map {slot : Slot} {say : Content → List Entry}
    {ids : Content → List String} {entry : String → Entry}
    (own : ∀ content, ∀ entry ∈ say content, entry.media? = some content.media)
    (spelled : ∀ content, content.media = slot.media →
      inSlot slot (say content) = (ids content).map entry)
    (contents : List Content) :
    inSlot slot (contents.flatMap say) =
      ((contents.filter (·.media = slot.media)).flatMap ids).map entry := by
  rw [inSlot_flatMap slot own, List.map_flatMap]
  refine List.flatMap_congr fun content listed => spelled content ?_
  exact of_decide_eq_true (List.mem_filter.mp listed).2

end Slots

namespace Intent

/-- All that has an identifier, each to end at once. -/
def expiries (channels : Conference) : Slot → List Entry
  | .channels media =>
      (channels.channelIdsFor media).map fun id =>
        .channel media { id := some id, expire := some 0 }
  | .connections media =>
      (channels.connectionIdsFor media).map fun id =>
        .connection media { id := some id, expire := some 0 }

/-- All channels that have an identifier, each with the streams of its medium, and with the
marker that says so where there are none. -/
def replacements (streams : Streams) (channels : Conference) : Slot → List Entry
  | .channels media =>
      let sources := streams.sources.entriesFor media
      let groups := streams.groups.entriesFor media
      (channels.channelIdsFor media).map fun id =>
        .channel media
          { id := some id,
            sources := if sources = [] then [.removeAll] else sources,
            groups := if groups = [] then [.emptySimulcast] else groups }
  | .connections _ => []

variable (settings : Settings) (channels : Conference)

theorem media?_of_mem_expiry {content : Content} {entry : Entry}
    (asked : entry ∈ expiry content) : entry.media? = some content.media := by
  rcases List.mem_append.mp asked with channel | connection
  · obtain ⟨id, _, rfl⟩ := List.mem_map.mp channel
    rfl
  · obtain ⟨id, _, rfl⟩ := List.mem_map.mp connection
    rfl

theorem inSlot_entries_expire (slot : Slot) :
    inSlot slot ((expire channels).entries settings) = expiries channels slot := by
  have own : ∀ content, ∀ entry ∈ expiry content, entry.media? = some content.media :=
    fun _ _ => media?_of_mem_expiry
  cases slot with
  | channels media =>
      refine inSlot_flatMap_eq_map own (fun content same => ?_) channels.contents
      obtain rfl : content.media = media := same
      simp [expiry]
  | connections media =>
      refine inSlot_flatMap_eq_map own (fun content same => ?_) channels.contents
      obtain rfl : content.media = media := same
      simp [expiry]

theorem inSlot_entries_replaceStreams (streams : Streams) (slot : Slot) :
    inSlot slot ((replaceStreams streams channels).entries settings) =
      replacements streams channels slot := by
  cases slot with
  | channels media =>
      refine inSlot_flatMap_eq_map (by simp [Entry.media?]) (fun content same => ?_)
        channels.contents
      obtain rfl : content.media = media := same
      simp [replacement]
  | connections media =>
      refine inSlot_eq_nil fun entry asked => ?_
      obtain ⟨content, _, id, _, rfl⟩ := mem_entries_replaceStreams.mp asked
      simp [Entry.slot?]

variable {settings channels}

/-- What an intent puts into a slot is called what something in that slot of its descriptor is. -/
theorem named_of_mem_inSlot {intent : Intent} (about : intent.channels? = some channels)
    {slot : Slot} {entry : Entry} (asked : entry ∈ inSlot slot (intent.entries settings)) :
    ∃ id ∈ channels.idsAt slot, entry.name? = some id := by
  obtain ⟨intended, stands⟩ := mem_inSlot.mp asked
  cases entry with
  | channel media channel =>
      obtain rfl := Option.some.inj stands
      obtain ⟨content, present, ⟨id, named, sameMedia, held⟩, _, _⟩ :=
        speaksOf_of_mem_entries settings about intended Role.noConfusion
      exact ⟨id, Conference.mem_channelIdsFor.mpr ⟨content, present, sameMedia, held⟩, named⟩
  | connection media connection =>
      obtain rfl := Option.some.inj stands
      obtain ⟨content, present, ⟨id, named, held⟩, sameMedia, _⟩ :=
        speaksOf_of_mem_entries settings about intended Role.noConfusion
      obtain rfl := Option.some.inj sameMedia
      exact ⟨id, Conference.mem_connectionIdsFor.mpr ⟨content, present, rfl, held⟩, named⟩
  | bundle | bundleName => cases stands

end Intent

namespace Draft

/-- A request with these entries in its slots and nothing else; without entries there is none. -/
inductive ConsistsOf (entries : Slot → List Entry) : Option Request → Prop where
  | nothing (idle : ∀ slot, entries slot = []) : ConsistsOf entries none
  | request {request : Request} (asked : ∃ slot, entries slot ≠ [])
      (media : (request.conference.contents.map (·.media)).Nodup)
      (entriesAt : ∀ slot, request.conference.entriesAt slot = entries slot)
      (bundles : request.conference.bundles = []) : ConsistsOf entries (some request)

/-- What has come into a conference has the name of something in a descriptor, of the same
medium and of the same kind. -/
def NamesFrom (channels before after : Conference) : Prop :=
  ∀ slot, ∃ added, after.entriesAt slot = before.entriesAt slot ++ added ∧
    ∀ entry ∈ added, ∃ id ∈ channels.idsAt slot, entry.name? = some id

variable {settings : Settings} {intent : Intent}

theorem consistsOf_add (id : Option ConferenceId) (name : Option String)
    {entries : Slot → List Entry}
    (spelled : ∀ slot, inSlot slot (intent.entries settings) = entries slot)
    (proper : ∀ entry ∈ intent.entries settings, entry.role ≠ .bundle)
    (bridge : BridgeAddress) (seq : UInt64) :
    ConsistsOf entries (((about settings id name).add intent).1.request? bridge seq) := by
  have distinct : (({ id, name } : Conference).contents.map (·.media)).Nodup := List.nodup_nil
  rw [request?_add_about]
  split
  · next idle =>
      refine .nothing fun slot => ?_
      rw [← spelled slot, idle, inSlot_nil]
  · next asks =>
      obtain ⟨entry, asked⟩ := List.exists_mem_of_ne_nil _ asks
      obtain ⟨slot, stands⟩ := Entry.exists_slot_of_role (proper entry asked)
      refine .request ⟨slot, ?_⟩ (Conference.nodup_media_foldl_place distinct _) (fun slot => ?_)
        (Conference.bundles_foldl_place proper _)
      · rw [← spelled slot]
        exact List.ne_nil_of_mem (mem_inSlot.mpr ⟨asked, stands⟩)
      · rw [← spelled slot]
        exact Conference.entriesAt_foldl_place slot distinct _

theorem namesFrom_add {channels : Conference} (about : intent.channels? = some channels)
    {draft : Draft} (distinct : (draft.conference.contents.map (·.media)).Nodup) :
    NamesFrom channels draft.conference (draft.add intent).1.conference := by
  intro slot
  rw [add_eq_gather]
  exact ⟨_, Conference.entriesAt_foldl_place slot distinct _,
    fun _ => Intent.named_of_mem_inSlot about⟩

/-- An expiry on its own ends each channel and connection of its descriptor that has an
identifier, and a replacement of streams on its own tells each such channel its streams.
Whatever else is in a draft, an intent about a descriptor adds nothing that is not named
there under the same medium and kind. -/
theorem updates_address_descriptor (settings : Settings) (id : Option ConferenceId)
    (name : Option String) (channels : Conference) (bridge : BridgeAddress) (seq : UInt64) :
    let start := about settings id name
    ConsistsOf (Intent.expiries channels)
        ((start.add (.expire channels)).1.request? bridge seq) ∧
      (∀ streams, ConsistsOf (Intent.replacements streams channels)
        ((start.add (.replaceStreams streams channels)).1.request? bridge seq)) ∧
      ∀ intent : Intent, intent.channels? = some channels → ∀ earlier,
        let draft := start.addAll earlier
        NamesFrom channels draft.conference (draft.add intent).1.conference := by
  intro start
  refine ⟨?_, fun streams => ?_, fun intent about earlier => ?_⟩
  · refine consistsOf_add id name (Intent.inSlot_entries_expire settings channels) ?_ bridge seq
    intro entry asked
    obtain ⟨content, _, asked⟩ := List.mem_flatMap.mp asked
    exact Entry.role_ne_bundle_of_media (Intent.media?_of_mem_expiry asked)
  · refine consistsOf_add id name
      (Intent.inSlot_entries_replaceStreams settings channels streams) ?_ bridge seq
    intro entry asked
    obtain ⟨content, _, id, _, rfl⟩ := Intent.mem_entries_replaceStreams.mp asked
    exact Role.noConfusion
  · exact namesFrom_add about (nodup_media_addAll earlier List.nodup_nil)

/-- The descriptor repeats a medium, and not all in it has an identifier.  New channels are
asked for in the request to which a direction is added. -/
theorem updates_address_descriptor_of_repeated_medium :
    let channels : Conference :=
      { contents :=
          [{ media := .audio, channels := [{ id := some "a1" }, {}] },
            { media := .data, connections := [{}, { id := some "s1" }] },
            { media := .audio, channels := [{ id := some "a2" }] }] }
    let start := about {} (some ⟨"c1"⟩) none
    let draft := start.addAll [.allocate false ⟨"alice"⟩ true [{ media := .audio }]]
    let direct : Intent := .setDirection .inactive channels
    ∃ request, (start.add (.expire channels)).1.request? ⟨"bridge"⟩ 1 = some request ∧
      ConsistsOf (Intent.expiries channels) (some request) ∧
      request.conference.contents =
        [{ media := .audio,
           channels := [{ id := some "a1", expire := some 0 },
             { id := some "a2", expire := some 0 }] },
          { media := .data, connections := [{ id := some "s1", expire := some 0 }] }] ∧
      direct.channels? = some channels ∧
      NamesFrom channels draft.conference (draft.add direct).1.conference := by
  intro channels start draft direct
  obtain ⟨expires, _, names⟩ :=
    updates_address_descriptor {} (some ⟨"c1"⟩) none channels ⟨"bridge"⟩ 1
  exact ⟨_, rfl, expires, by decide, rfl, names direct rfl _⟩

end Draft

end ConferenceFocus.Colibri
