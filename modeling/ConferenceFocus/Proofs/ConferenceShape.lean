import ConferenceFocus.Proofs.ConferenceEntries
import ConferenceFocus.Proofs.ConfirmedState

/-!
# The shape of the confirmed conference

Replies may repeat a medium, an identifier or a bundle, and may leave things
without a name.  What a controller holds never does: whatever was replied, it
has one content for each medium at most, and each entry has an identifier of its
own.  Look-ups by medium and by identifier therefore find all there is.
-/

namespace ConferenceFocus.Colibri

/-- Every entry is named, and no two of a kind have the same name. -/
structure Content.WellFormed (content : Content) : Prop where
  channels_named : ∀ channel ∈ content.channels, channel.id ≠ none
  connections_named : ∀ connection ∈ content.connections, connection.id ≠ none
  channels_distinct : (content.channels.map (·.id)).Nodup
  connections_distinct : (content.connections.map (·.id)).Nodup

/-- No medium has two contents, and each content is well-formed. -/
structure Arranged (contents : List Content) : Prop where
  media : (contents.map (·.media)).Nodup
  wellFormed : ∀ content ∈ contents, content.WellFormed

structure Conference.WellFormed (conference : Conference) : Prop where
  contents : Arranged conference.contents
  bundles : (conference.bundles.map (·.id)).Nodup
  /-- Nothing is held of a conference that has no identifier. -/
  vacant : conference.id = none → conference.contents = [] ∧ conference.bundles = []

section Merging

namespace Content

theorem named_of_hasUnnamed {content : Content} (complete : content.hasUnnamed = false) :
    (∀ channel ∈ content.channels, channel.id ≠ none) ∧
      ∀ connection ∈ content.connections, connection.id ≠ none := by
  simpa [hasUnnamed] using complete

theorem wellFormed_bare (media : MediaType) : ({ media } : Content).WellFormed :=
  ⟨by simp, by simp, by simp, by simp⟩

theorem WellFormed.absorb {content reply : Content} (wellFormed : content.WellFormed)
    (complete : reply.hasUnnamed = false) : (content.absorb reply).WellFormed where
  channels_named := by
    intro channel listed
    rcases Keyed.mem_of_mem_appendAll listed with held | replied
    · exact wellFormed.channels_named channel held
    · exact (named_of_hasUnnamed complete).1 channel replied
  connections_named := by
    intro connection listed
    rcases Keyed.mem_of_mem_appendAll listed with held | replied
    · exact wellFormed.connections_named connection held
    · exact (named_of_hasUnnamed complete).2 connection replied
  channels_distinct := Keyed.nodup_appendAll wellFormed.channels_distinct reply.channels
  connections_distinct := Keyed.nodup_appendAll wellFormed.connections_distinct reply.connections

end Content

variable {media : MediaType} {change : Content → Content} {contents : List Content}

theorem mem_media_modifyContent (keeps : ∀ content, (change content).media = content.media)
    {other : MediaType} :
    other ∈ (modifyContent media change contents).map (·.media) ↔
      other ∈ contents.map (·.media) ∨ other = media := by
  induction contents with
  | nil => simp [modifyContent, keeps]
  | cons content rest ih =>
      unfold modifyContent
      split
      · next same =>
          rw [List.map_cons, List.map_cons, keeps, List.mem_cons]
          refine ⟨.inl, fun known => known.elim id fun asked => .inl (asked.trans same.symm)⟩
      · rw [List.map_cons, List.map_cons, List.mem_cons, List.mem_cons, ih]
        exact or_assoc.symm

theorem nodup_media_modifyContent
    (keeps : ∀ content, (change content).media = content.media)
    (distinct : (contents.map (·.media)).Nodup) :
    ((modifyContent media change contents).map (·.media)).Nodup := by
  induction contents with
  | nil => simp [modifyContent]
  | cons content rest ih =>
      rw [List.map_cons, List.nodup_cons] at distinct
      unfold modifyContent
      split
      · rw [List.map_cons, keeps, List.nodup_cons]
        exact distinct
      · next different =>
          rw [List.map_cons, List.nodup_cons, mem_media_modifyContent keeps]
          exact ⟨fun known => known.elim distinct.1 different, ih distinct.2⟩

/-- A change to the content of a medium keeps the contents arranged. -/
theorem Arranged.modify (arranged : Arranged contents)
    (keeps : ∀ content, (change content).media = content.media)
    (changes : ∀ content : Content, content.WellFormed → (change content).WellFormed) :
    Arranged (modifyContent media change contents) := by
  refine ⟨nodup_media_modifyContent keeps arranged.media, ?_⟩
  replace arranged := arranged.wellFormed
  induction contents with
  | nil => simpa [modifyContent] using changes _ (Content.wellFormed_bare media)
  | cons content rest ih =>
      obtain ⟨first, later⟩ := List.forall_mem_cons.mp arranged
      unfold modifyContent
      split
      · exact List.forall_mem_cons.mpr ⟨changes content first, later⟩
      · exact List.forall_mem_cons.mpr ⟨first, ih later⟩

/-- The contents of a reply are taken in one after the other. -/
theorem Arranged.absorb (arranged : Arranged contents) {replies : List Content}
    (complete : ∀ content ∈ replies, content.hasUnnamed = false) :
    Arranged (replies.foldl
      (fun contents content => modifyContent content.media (·.absorb content) contents)
      contents) := by
  induction replies generalizing contents with
  | nil => exact arranged
  | cons first rest ih =>
      obtain ⟨firstComplete, restComplete⟩ := List.forall_mem_cons.mp complete
      refine ih (arranged.modify (fun _ => rfl) fun content wellFormed => ?_) restComplete
      exact wellFormed.absorb firstComplete

namespace Conference

/-- A reply that is merged names all that is in it. -/
theorem complete_of_merge {state reply merged : Conference}
    (merges : state.merge reply = .ok merged) :
    ∀ content ∈ reply.contents, content.hasUnnamed = false := by
  unfold merge validate at merges
  split at merges
  · cases merges
  · split at merges
    · cases merges
    · split at merges
      · cases merges
      · next complete =>
          intro content present
          exact Bool.eq_false_iff.mpr (List.find?_eq_none.mp complete content present)

theorem WellFormed.merge {state reply merged : Conference} (wellFormed : state.WellFormed)
    (merges : state.merge reply = .ok merged) : merged.WellFormed := by
  have complete := complete_of_merge merges
  obtain ⟨id, _, rfl⟩ := absorb_of_merge merges
  exact ⟨wellFormed.contents.absorb complete,
    Keyed.nodup_appendAll wellFormed.bundles reply.bundles, nofun⟩

end Conference

end Merging

end ConferenceFocus.Colibri

namespace ConferenceFocus.Control

open Colibri

section Runs

variable {holds : Conference → Prop}
  (merged : ∀ {state reply next : Conference}, holds state → state.merge reply = .ok next →
    holds next)
  (named : ∀ {state : Conference} (name : String), holds state →
    holds { state with name := some name })

include merged named

/-- What merging and naming keep is kept by every call that does not expire the conference. -/
theorem Event.keeps {event : Event} (lasting : event.expires = false)
    (before : holds event.before.state) : holds event.turn.controller.state := by
  have confirmed := Event.state_of_not_expires lasting
  generalize event.confirmation? = confirmation? at confirmed
  cases confirmation? with
  | none => exact Except.ok.inj confirmed ▸ before
  | some confirmation =>
      replace confirmed : confirmation.applyTo event.before.state =
          .ok event.turn.controller.state := by
        simpa using confirmed
      cases confirmation with
      | reply body => exact merged before confirmed
      | naming name => exact Except.ok.inj confirmed ▸ named name before

theorem Controller.state_after_of_lasting (controller : Controller) (moments : List Moment)
    (lasting : ∀ event ∈ controller.events moments, event.expires = false)
    (before : holds controller.state) : holds (controller.after moments).state := by
  induction moments generalizing controller with
  | nil => exact before
  | cons moment rest ih =>
      obtain ⟨first, later⟩ := List.forall_mem_cons.mp lasting
      exact ih (controller.turn moment).controller later (Event.keeps merged named first before)

/-- What merging and naming keep, and what holds of nothing, holds after every run. -/
theorem Controller.state_after (empty : holds {}) (settings : Settings)
    (moments : List Moment) : holds (after { settings } moments).state := by
  induction moments using List.reverseRecOn with
  | nil => exact empty
  | append_singleton moments moment ih =>
      let last : Event := { before := after { settings } moments, moment }
      rw [after_concat]
      cases expires : last.expires with
      | true => exact (Event.state_of_expires expires).symm ▸ empty
      | false => exact Event.keeps merged named expires ih

end Runs

namespace Controller

theorem wellFormed_after (settings : Settings) (moments : List Moment) :
    (after { settings } moments).state.WellFormed := by
  refine state_after (fun wellFormed merges => wellFormed.merge merges)
    (fun _ wellFormed => ?_) ?_ settings moments
  · exact ⟨wellFormed.contents, wellFormed.bundles, wellFormed.vacant⟩
  · exact ⟨⟨by simp, by simp⟩, by simp, fun _ => ⟨rfl, rfl⟩⟩

/-- After any run, whatever was replied, the conference held has one content at
most for each medium; in each content all channels and connections have
identifiers, each its own among those of its kind; no bundle is there twice; and
without an identifier the conference is empty. -/
theorem confirmed_shape (settings : Settings) (moments : List Moment) :
    let state := (after { settings } moments).state
    (state.contents.map (·.media)).Nodup ∧
      (∀ content ∈ state.contents,
        (∀ channel ∈ content.channels, channel.id ≠ none) ∧
          (∀ connection ∈ content.connections, connection.id ≠ none) ∧
          (content.channels.map (·.id)).Nodup ∧ (content.connections.map (·.id)).Nodup) ∧
      (state.bundles.map (·.id)).Nodup ∧
      (state.id = none → state.contents = [] ∧ state.bundles = []) := by
  intro state
  obtain ⟨⟨media, wellFormed⟩, bundles, vacant⟩ := wellFormed_after settings moments
  refine ⟨media, fun content present => ?_, bundles, vacant⟩
  obtain ⟨channelsNamed, connectionsNamed, channels, connections⟩ := wellFormed content present
  exact ⟨channelsNamed, connectionsNamed, channels, connections⟩

/-- The medium comes twice in the reply, and with it an identifier. -/
example :
    let audio (ids : List String) : Content :=
      { media := .audio, channels := ids.map fun id => { id := some id } }
    let reply : Conference :=
      { id := some ⟨"first"⟩, contents := [audio ["a", "a"], audio ["a", "b"]] }
    let moments : List Moment :=
      [{ call := .setBridge ⟨"bridge"⟩ },
        { call := .allocate true ⟨"alice"⟩ true [Simulation.Sample.audioContent 1],
          delivery := .answered (.conference reply) }]
    (after {} moments).state.contents = [audio ["a", "b"]] := by
  decide

end Controller

end ConferenceFocus.Control
