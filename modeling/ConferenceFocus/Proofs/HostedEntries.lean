import ConferenceFocus.Proofs.ConferenceEntries
import ConferenceFocus.Simulation.HostedConference

/-!
# Requests seen by a hosted conference

A hosted conference takes the entries of a request one after the other.  What
it hosts afterwards it hosted before, or an entry that does not expire it has
named it.  What a request that only expires has named it no longer hosts, and an
entry that does not expire takes nothing away.
-/

namespace ConferenceFocus.Simulation

open Colibri

namespace HostedConference

/-- Whether a name is alive in a conference under this role. -/
def Hosts (hosted : HostedConference) (name : String) : Role → Prop
  | .channel media => ∃ channel ∈ hosted.channels, channel.id = name ∧ channel.media = media
  | .connection => ∃ connection ∈ hosted.connections, connection.id = name
  | .bundle => False

theorem knows_iff {hosted : HostedConference} {name : String} :
    hosted.knows name = true ↔ ∃ role, hosted.Hosts name role := by
  simp only [knows, Bool.or_eq_true, Keyed.holds_iff]
  constructor
  · intro known
    rcases known with ⟨channel, alive, named⟩ | ⟨connection, alive, named⟩
    · exact ⟨.channel channel.media, channel, alive, named, rfl⟩
    · exact ⟨.connection, connection, alive, named⟩
  · intro hosts
    obtain ⟨role, alive⟩ := hosts
    cases role with
    | channel media =>
        obtain ⟨channel, alive, named, _⟩ := alive
        exact .inl ⟨channel, alive, named⟩
    | connection =>
        obtain ⟨connection, alive, named⟩ := alive
        exact .inr ⟨connection, alive, named⟩
    | bundle => exact alive.elim

theorem isEmpty_iff {hosted : HostedConference} :
    hosted.isEmpty = true ↔ ∀ name role, ¬ hosted.Hosts name role := by
  simp only [isEmpty, Bool.and_eq_true, List.isEmpty_iff]
  constructor
  · intro bare name role alive
    obtain ⟨noChannels, noConnections⟩ := bare
    cases role <;> simp [Hosts, noChannels, noConnections] at alive
  · intro nothing
    constructor
    · refine List.eq_nil_iff_forall_not_mem.mpr fun channel alive => ?_
      exact nothing channel.id (.channel channel.media) ⟨channel, alive, rfl, rfl⟩
    · refine List.eq_nil_iff_forall_not_mem.mpr fun connection alive => ?_
      exact nothing connection.id .connection ⟨connection, alive, rfl⟩

def applyEntry (hosted : HostedConference) : Entry → HostedConference
  | .channel media channel => applyChannel media hosted channel
  | .connection _ connection => applyConnection hosted connection
  | .bundle _ | .bundleName _ => hosted

theorem apply_eq_foldl (hosted : HostedConference) (contents : List Content) :
    hosted.apply contents = (entriesOf contents).foldl applyEntry hosted := by
  induction contents generalizing hosted with
  | nil => rfl
  | cons content rest ih =>
      have first : hosted.applyContent content = content.entries.foldl applyEntry hosted := by
        rw [Content.entries, List.foldl_append, List.foldl_map, List.foldl_map]
        rfl
      rw [entriesOf_cons, List.foldl_append, ← first]
      exact ih (hosted.applyContent content)

theorem mem_requiredIds {contents : List Content} {name : String} :
    name ∈ contents.flatMap requiredIds ↔
      ∃ entry ∈ entriesOf contents, entry.name? = some name ∧ entry.expire? ≠ some 0 := by
  simp only [List.mem_flatMap, requiredIds, List.mem_append, List.mem_filterMap, List.mem_filter,
    decide_eq_true_eq, mem_entriesOf, Content.mem_entries]
  constructor
  · intro required
    rcases required with ⟨content, present, ⟨channel, ⟨within, lasts⟩, named⟩ |
      ⟨connection, ⟨within, lasts⟩, named⟩⟩
    · exact ⟨_, ⟨content, present, .inl ⟨channel, within, rfl⟩⟩, named, lasts⟩
    · exact ⟨_, ⟨content, present, .inr ⟨connection, within, rfl⟩⟩, named, lasts⟩
  · intro asked
    rcases asked with ⟨entry, ⟨content, present, ⟨channel, within, rfl⟩ |
      ⟨connection, within, rfl⟩⟩, named, lasts⟩
    · exact ⟨content, present, .inl ⟨channel, ⟨within, lasts⟩, named⟩⟩
    · exact ⟨content, present, .inr ⟨connection, ⟨within, lasts⟩, named⟩⟩

theorem exists_updated (channels : List HostedChannel) (id : String) (channel : Channel)
    (name : String) (media : MediaType) :
    (∃ other ∈ Keyed.adjust channels id (·.update channel),
        other.id = name ∧ other.media = media) ↔
      ∃ other ∈ channels, other.id = name ∧ other.media = media :=
  Keyed.exists_adjust channels id (·.update channel) fun _ => Iff.rfl

section Entry

variable {hosted : HostedConference} {entry : Entry} {name : String} {role : Role}

@[simp] theorem id_applyEntry (hosted : HostedConference) (entry : Entry) :
    (hosted.applyEntry entry).id = hosted.id := by
  cases entry with
  | channel media channel =>
      simp only [applyEntry, applyChannel]
      split
      · rfl
      · split <;> rfl
  | connection media connection =>
      simp only [applyEntry, applyConnection]
      split
      · rfl
      · split <;> rfl
  | bundle | bundleName => rfl

theorem hosts_of_hosts_applyEntry (alive : (hosted.applyEntry entry).Hosts name role) :
    hosted.Hosts name role ∨
      entry.name? = some name ∧ entry.role = role ∧ entry.expire? ≠ some 0 := by
  cases entry with
  | bundle | bundleName => exact .inl alive
  | connection media connection =>
      simp only [applyEntry, applyConnection] at alive
      split at alive
      · exact .inl alive
      · next id named =>
          split at alive
          · cases role with
            | channel | bundle => exact .inl alive
            | connection =>
                obtain ⟨other, kept, sameName⟩ := alive
                exact .inl ⟨other, (Keyed.mem_erase.mp kept).1, sameName⟩
          · next lasts =>
              cases role with
              | channel | bundle => exact .inl alive
              | connection =>
                  obtain ⟨other, within, sameName⟩ := alive
                  rcases Keyed.mem_of_mem_append within with earlier | rfl
                  · exact .inl ⟨other, earlier, sameName⟩
                  · exact .inr ⟨named.trans (congrArg some sameName), rfl, lasts⟩
  | channel media channel =>
      simp only [applyEntry, applyChannel] at alive
      split at alive
      · exact .inl alive
      · next id named =>
          split at alive
          · cases role with
            | connection | bundle => exact .inl alive
            | channel other =>
                obtain ⟨hostedChannel, kept, sameChannel⟩ := alive
                exact .inl ⟨hostedChannel, (Keyed.mem_erase.mp kept).1, sameChannel⟩
          · next lasts =>
              cases role with
              | connection | bundle => exact .inl alive
              | channel other =>
                  obtain ⟨hostedChannel, within, sameChannel⟩ :=
                    (exists_updated _ id channel name other).mp alive
                  rcases Keyed.mem_of_mem_append within with earlier | rfl
                  · exact .inl ⟨hostedChannel, earlier, sameChannel⟩
                  · obtain ⟨sameName, sameMedia⟩ := sameChannel
                    exact .inr ⟨named.trans (congrArg some sameName),
                      congrArg Role.channel sameMedia, lasts⟩

theorem not_hosts_applyEntry (expires : entry.expire? = some 0) (named : entry.name? = some name)
    (sameRole : entry.role = role) : ¬ (hosted.applyEntry entry).Hosts name role := by
  subst sameRole
  cases entry with
  | bundle | bundleName => exact False.elim
  | connection media connection =>
      simp only [Entry.name?, Entry.expire?] at named expires
      simp only [applyEntry, applyConnection, named, expires, if_true]
      intro alive
      obtain ⟨other, kept, sameName⟩ := alive
      exact (Keyed.mem_erase.mp kept).2 sameName
  | channel media channel =>
      simp only [Entry.name?, Entry.expire?] at named expires
      simp only [applyEntry, applyChannel, named, expires, if_true]
      intro alive
      obtain ⟨other, kept, sameName, _⟩ := alive
      exact (Keyed.mem_erase.mp kept).2 sameName

theorem hosts_applyEntry_of_hosts (lasts : entry.expire? ≠ some 0)
    (alive : hosted.Hosts name role) : (hosted.applyEntry entry).Hosts name role := by
  cases entry with
  | bundle | bundleName => exact alive
  | connection media connection =>
      simp only [Entry.expire?] at lasts
      simp only [applyEntry, applyConnection, if_neg lasts]
      split
      · exact alive
      · cases role with
        | channel | bundle => exact alive
        | connection =>
            obtain ⟨other, within, sameName⟩ := alive
            exact ⟨other, Keyed.mem_append_of_mem within, sameName⟩
  | channel media channel =>
      simp only [Entry.expire?] at lasts
      simp only [applyEntry, applyChannel, if_neg lasts]
      split
      · exact alive
      · cases role with
        | connection | bundle => exact alive
        | channel other =>
            obtain ⟨hostedChannel, within, sameChannel⟩ := alive
            exact (exists_updated _ _ channel name other).mpr
              ⟨hostedChannel, Keyed.mem_append_of_mem within, sameChannel⟩

end Entry

section Request

variable {hosted : HostedConference} {entries : List Entry} {name : String} {role : Role}

@[simp] theorem id_apply (hosted : HostedConference) (contents : List Content) :
    (hosted.apply contents).id = hosted.id := by
  rw [apply_eq_foldl]
  generalize entriesOf contents = entries
  induction entries generalizing hosted with
  | nil => rfl
  | cons entry rest ih => rw [List.foldl_cons, ih, id_applyEntry]

/-- What is alive after a request was alive before, or the request has named it. -/
theorem hosts_of_hosts_foldl (alive : (entries.foldl applyEntry hosted).Hosts name role) :
    hosted.Hosts name role ∨ ∃ entry ∈ entries,
      entry.name? = some name ∧ entry.role = role ∧ entry.expire? ≠ some 0 := by
  induction entries generalizing hosted with
  | nil => exact .inl alive
  | cons entry rest ih =>
      rcases ih alive with earlier | ⟨other, later, named⟩
      · rcases hosts_of_hosts_applyEntry earlier with before | named
        · exact .inl before
        · exact .inr ⟨entry, List.mem_cons_self, named⟩
      · exact .inr ⟨other, List.mem_cons_of_mem entry later, named⟩

/-- What a request names that only expires is not alive after it. -/
theorem not_hosts_foldl (expires : ∀ entry ∈ entries, entry.expire? = some 0) {entry : Entry}
    (asked : entry ∈ entries) (named : entry.name? = some name) (sameRole : entry.role = role) :
    ¬ (entries.foldl applyEntry hosted).Hosts name role := by
  induction entries generalizing hosted with
  | nil => cases asked
  | cons first rest ih =>
      have restExpires := fun other later => expires other (List.mem_cons_of_mem first later)
      rw [List.foldl_cons]
      rcases List.mem_cons.mp asked with rfl | later
      · intro alive
        -- Nothing in the rest of the request can bring back what is gone.
        rcases hosts_of_hosts_foldl alive with before | ⟨other, later, _, _, lasts⟩
        · exact not_hosts_applyEntry (expires entry asked) named sameRole before
        · exact lasts (restExpires other later)
      · exact ih restExpires later

end Request

section Update

theorem updatedSources_updatedSources (current update : List Source) :
    updatedSources (updatedSources current update) update = updatedSources current update := by
  cases update <;> rfl

theorem updatedGroups_updatedGroups (current update : List SourceGroup) :
    updatedGroups (updatedGroups current update) update = updatedGroups current update := by
  unfold updatedGroups
  cases update.filter (!·.isEmpty) with
  | nil => simp only [List.filter_filter, Bool.and_self]
  | cons first rest => rfl

/-- An update says all there is to say the first time. -/
theorem update_update (hosted : HostedChannel) (channel : Channel) :
    (hosted.update channel).update channel = hosted.update channel := by
  have direction : channel.direction.or (channel.direction.or hosted.direction) =
      channel.direction.or hosted.direction := by
    cases channel.direction <;> rfl
  simp only [HostedChannel.update, direction, updatedSources_updatedSources,
    updatedGroups_updatedGroups]

end Update

section Look

variable {hosted : HostedConference} {name : String} {media : MediaType} {channel : Channel}

theorem find?_updated (channels : List HostedChannel) (id : String) (channel : Channel)
    (other : String) :
    Keyed.find? (Keyed.adjust channels id (·.update channel)) other =
      if other = id then (Keyed.find? channels other).map (·.update channel)
      else Keyed.find? channels other :=
  Keyed.find?_adjust channels id (·.update channel) (fun _ => rfl) other

theorem find?_applyEntry_of_ne {entry : Entry} (other : entry.name? ≠ some name) :
    Keyed.find? (hosted.applyEntry entry).channels name = Keyed.find? hosted.channels name := by
  cases entry with
  | bundle | bundleName => rfl
  | connection media connection =>
      simp only [applyEntry, applyConnection]
      split
      · rfl
      · split <;> rfl
  | channel media channel =>
      simp only [applyEntry, applyChannel]
      split
      · rfl
      · next id named =>
          have different : name ≠ id := fun same => other (named.trans (congrArg some same.symm))
          split
          · exact Keyed.find?_erase_of_ne hosted.channels different
          · have opened : ¬ Keyed.key (κ := String)
                ({ id, media, endpoint := channel.endpoint } : HostedChannel) = name :=
              Ne.symm different
            rw [find?_updated, if_neg different, Keyed.find?_append, if_neg opened,
              Option.or_none]

theorem find?_applyEntry (named : channel.id = some name) (lasts : channel.expire ≠ some 0) :
    Keyed.find? (hosted.applyEntry (.channel media channel)).channels name =
      some (((Keyed.find? hosted.channels name).getD
        { id := name, media, endpoint := channel.endpoint }).update channel) := by
  simp only [applyEntry, applyChannel, named, if_neg lasts]
  have found := Keyed.find?_append hosted.channels
    ({ id := name, media, endpoint := channel.endpoint } : HostedChannel) name
  rw [find?_updated, if_pos rfl, found]
  cases Keyed.find? hosted.channels name with
  | none => simp [Keyed.key]
  | some hostedChannel => rfl

/-- A channel that a request names in one way only is updated in that way. -/
theorem find?_foldl_applyEntry (hosted : HostedConference) (named : channel.id = some name)
    (lasts : channel.expire ≠ some 0) {entries : List Entry}
    (alike : ∀ entry ∈ entries, entry.name? = some name → entry = .channel media channel) :
    Keyed.find? (entries.foldl applyEntry hosted).channels name =
      if .channel media channel ∈ entries then
        some (((Keyed.find? hosted.channels name).getD
          { id := name, media, endpoint := channel.endpoint }).update channel)
      else Keyed.find? hosted.channels name := by
  induction entries generalizing hosted with
  | nil => rfl
  | cons entry rest ih =>
      have restAlike := fun other later => alike other (List.mem_cons_of_mem entry later)
      rw [List.foldl_cons, ih _ restAlike]
      by_cases about : entry.name? = some name
      · obtain rfl := alike entry List.mem_cons_self about
        rw [find?_applyEntry named lasts, Option.getD_some, update_update, ite_self,
          if_pos List.mem_cons_self]
      · have different : Entry.channel media channel ≠ entry := by
          rintro rfl
          exact about named
        rw [find?_applyEntry_of_ne about]
        simp [different]

end Look

end HostedConference

end ConferenceFocus.Simulation
