import ConferenceFocus.Proofs.ConferenceEntries

/-!
# What intents say about names

An allocation names nothing, and every other intent names only what its
descriptor lists, under the role it has there.  What the entries of an intent
say about expiry is the same for all of them.
-/

namespace ConferenceFocus.Colibri

namespace Content

theorem lists_channel {content : Content} {name : String} (named : name ∈ content.channelIds) :
    content.Lists name (.channel content.media) :=
  ⟨rfl, mem_channelIds.mp named⟩

theorem lists_connection {content : Content} {name : String}
    (named : name ∈ content.connectionIds) : content.Lists name .connection :=
  mem_connectionIds.mp named

theorem mem_channelIds_of_lists {content : Content} {name : String} {media : MediaType}
    (listed : content.Lists name (.channel media)) : name ∈ content.channelIds :=
  mem_channelIds.mpr listed.2

theorem mem_connectionIds_of_lists {content : Content} {name : String}
    (listed : content.Lists name .connection) : name ∈ content.connectionIds :=
  mem_connectionIds.mpr listed

end Content

theorem Conference.content?_eq_some {conference : Conference} {media : MediaType}
    {content : Content} (found : conference.content? media = some content) :
    content ∈ conference.contents ∧ content.media = media := by
  unfold Conference.content? at found
  exact ⟨List.mem_of_find?_eq_some found, by simpa using List.find?_some found⟩

namespace Intent

def channels? : Intent → Option Conference
  | allocate .. => none
  | expire channels | updateCodecs _ channels | updateTransports _ _ channels
  | updateBundle _ _ channels | replaceStreams _ channels | setDirection _ channels =>
      channels

/-- What the entries of an intent say about expiry. -/
def expire? : Intent → Option Nat
  | allocate .. => some newChannelExpire
  | expire _ => some 0
  | _ => none

theorem mem_perMedium {α : Type} {table : MediaMap α} {channels : Conference}
    {entries : MediaType → α → Content → List Entry} {entry : Entry}
    (asked : entry ∈ perMedium table channels entries) :
    ∃ value, ∃ content ∈ channels.contents, entry ∈ entries content.media value content := by
  obtain ⟨⟨media, value⟩, _, asked⟩ := List.mem_flatMap.mp asked
  cases found : channels.content? media with
  | none => simp [found] at asked
  | some content =>
      obtain ⟨present, rfl⟩ := Conference.content?_eq_some found
      exact ⟨value, content, present, by simpa [found] using asked⟩

/-- An entry speaks of a content if it names what stands there under its role, and is about
the same medium. -/
structure SpeaksOf (content : Content) (expire : Option Nat) (entry : Entry) : Prop where
  named : ∃ name, entry.name? = some name ∧ content.Lists name entry.role
  media : entry.media? = some content.media
  expire : entry.expire? = expire

section SpeaksOf

variable {content : Content} {expire : Option Nat} {entry : Entry}

theorem speaksOf_channels {change : String → Channel}
    (named : ∀ name, (change name).id = some name) (lasts : ∀ name, (change name).expire = expire)
    (asked : entry ∈ content.channelIds.map fun name => .channel content.media (change name)) :
    SpeaksOf content expire entry := by
  obtain ⟨name, listed, rfl⟩ := List.mem_map.mp asked
  exact ⟨⟨name, named name, Content.lists_channel listed⟩, rfl, lasts name⟩

theorem speaksOf_connections {change : String → SctpConnection}
    (named : ∀ name, (change name).id = some name) (lasts : ∀ name, (change name).expire = expire)
    (asked : entry ∈
      content.connectionIds.map fun name => .connection content.media (change name)) :
    SpeaksOf content expire entry := by
  obtain ⟨name, listed, rfl⟩ := List.mem_map.mp asked
  exact ⟨⟨name, named name, Content.lists_connection listed⟩, rfl, lasts name⟩

end SpeaksOf

/-- What an intent about a descriptor names is listed there under the same role. -/
theorem speaksOf_of_mem_entries (settings : Settings) {intent : Intent} {channels : Conference}
    (about : intent.channels? = some channels) {entry : Entry}
    (asked : entry ∈ intent.entries settings) (proper : entry.role ≠ .bundle) :
    ∃ content ∈ channels.contents, SpeaksOf content intent.expire? entry := by
  cases intent with
  | allocate useBundle endpoint initiator contents => cases about
  | expire other =>
      cases about
      obtain ⟨content, present, asked⟩ := List.mem_flatMap.mp asked
      rcases List.mem_append.mp asked with asked | asked
      · exact ⟨content, present, speaksOf_channels (fun _ => rfl) (fun _ => rfl) asked⟩
      · exact ⟨content, present, speaksOf_connections (fun _ => rfl) (fun _ => rfl) asked⟩
  | updateCodecs descriptions other =>
      cases about
      unfold entries at asked
      obtain ⟨description, content, present, asked⟩ := mem_perMedium asked
      exact ⟨content, present, speaksOf_channels (fun _ => rfl) (fun _ => rfl) asked⟩
  | updateTransports initiator transports other =>
      cases about
      unfold entries at asked
      obtain ⟨transport, content, present, asked⟩ := mem_perMedium asked
      rcases List.mem_append.mp asked with asked | asked
      · exact ⟨content, present, speaksOf_channels (fun _ => rfl) (fun _ => rfl) asked⟩
      · exact ⟨content, present, speaksOf_connections (fun _ => rfl) (fun _ => rfl) asked⟩
  | updateBundle initiator transport other =>
      cases about
      simp only [entries] at asked
      split at asked
      · cases asked
      · rcases List.mem_append.mp asked with asked | asked
        · obtain ⟨content, present, asked⟩ := List.mem_flatMap.mp asked
          obtain ⟨channel, within, named⟩ := List.mem_filterMap.mp asked
          obtain ⟨name, sameName, rfl⟩ := Option.map_eq_some_iff.mp named
          have listed : content.Lists name (.channel content.media) :=
            ⟨rfl, Keyed.holds_iff.mpr ⟨channel, (List.mem_filter.mp within).1, sameName⟩⟩
          exact ⟨content, present, ⟨name, rfl, listed⟩, rfl, rfl⟩
        · rw [List.mem_singleton.mp asked] at proper
          exact absurd rfl proper
  | replaceStreams streams other =>
      cases about
      obtain ⟨content, present, asked⟩ := List.mem_flatMap.mp asked
      exact ⟨content, present, speaksOf_channels (fun _ => rfl) (fun _ => rfl) asked⟩
  | setDirection direction other =>
      cases about
      obtain ⟨media, _, asked⟩ := List.mem_flatMap.mp asked
      cases found : channels.content? media with
      | none => simp [found] at asked
      | some content =>
          obtain ⟨present, rfl⟩ := Conference.content?_eq_some found
          rw [found] at asked
          exact ⟨content, present, speaksOf_channels (fun _ => rfl) (fun _ => rfl) asked⟩

/-- An expiry leaves out nothing that its descriptor lists. -/
theorem mem_entries_expire (settings : Settings) {channels : Conference} {name : String}
    {role : Role} (listed : channels.Lists name role) :
    ∃ entry ∈ (expire channels).entries settings,
      entry.name? = some name ∧ entry.role = role := by
  obtain ⟨content, present, listed⟩ := listed
  suffices spoken : ∃ entry ∈ expiry content, entry.name? = some name ∧ entry.role = role by
    obtain ⟨entry, asked, named⟩ := spoken
    exact ⟨entry, List.mem_flatMap.mpr ⟨content, present, asked⟩, named⟩
  cases role with
  | channel media =>
      obtain rfl := listed.1
      exact ⟨_, List.mem_append.mpr (.inl (List.mem_map.mpr
        ⟨name, Content.mem_channelIds_of_lists listed, rfl⟩)), rfl, rfl⟩
  | connection =>
      exact ⟨_, List.mem_append.mpr (.inr (List.mem_map.mpr
        ⟨name, Content.mem_connectionIds_of_lists listed, rfl⟩)), rfl, rfl⟩
  | bundle => exact listed.elim

section Allocation

variable {settings : Settings} {useBundle : Bool} {endpoint : EndpointId} {initiator : Bool}
  {contents : List MediaContent} {entry : Entry}

theorem unnamed_of_mem_entries
    (asked : entry ∈ (allocate useBundle endpoint initiator contents).entries settings)
    (proper : entry.role ≠ .bundle) :
    entry.name? = none ∧ entry.expire? = some newChannelExpire ∧
      ∃ content ∈ contents, entry.media? = some content.media := by
  rcases List.mem_append.mp asked with asked | asked
  · obtain ⟨content, present, rfl⟩ := List.mem_map.mp asked
    unfold allocation
    split
    · next data => exact ⟨rfl, rfl, content, present, by rw [data]; rfl⟩
    · exact ⟨rfl, rfl, content, present, rfl⟩
  · cases entry with
    | bundle | bundleName => exact absurd rfl proper
    | channel | connection => split at asked <;> simp at asked

end Allocation

theorem mem_entries_replaceStreams {settings : Settings} {streams : Streams}
    {channels : Conference} {entry : Entry} :
    entry ∈ (replaceStreams streams channels).entries settings ↔
      ∃ content ∈ channels.contents, ∃ name ∈ content.channelIds,
        entry = .channel content.media
          (replacement (streams.sources.entriesFor content.media)
            (streams.groups.entriesFor content.media) name) := by
  simp only [entries, List.mem_flatMap, List.mem_map, eq_comm]

end Intent

end ConferenceFocus.Colibri
