import ConferenceFocus.Proofs.GrantRetention
import ConferenceFocus.Simulation.Sample

/-!
# Changes of direction

To mute a participant, or to put it on hold, is to set a direction on its audio and its
video channels.  A descriptor may list a medium more than once, as the reply that it was
taken from did, and the calls look at the first content of a medium only.  `Redirects` says
what is expected of a call about given channels: with those of the first contents it is
met on every descriptor, with all channels of audio and video it is not.
-/

namespace ConferenceFocus.Colibri

namespace Conference

variable (conference : Conference) (media : MediaType)

/-- The identifiers of the channels in the first content of a medium. -/
def firstChannelIdsFor : List String :=
  ((conference.content? media).map (·.channelIds)).getD []

theorem allocatedCountFor_eq_length :
    conference.allocatedCountFor media = (conference.firstChannelIdsFor media).length := by
  unfold allocatedCountFor firstChannelIdsFor
  cases conference.content? media <;> rfl

theorem firstChannelIdsFor_prefix :
    conference.firstChannelIdsFor media <+: conference.channelIdsFor media := by
  rw [firstChannelIdsFor, content?, ← List.head?_filter, channelIdsFor]
  cases conference.contents.filter (·.media = media) with
  | nil => exact List.prefix_refl []
  | cons first rest => exact List.prefix_append first.channelIds _

end Conference

/-- The media that have a direction, in the order in which they are checked. -/
def directedMedia : List MediaType := [.audio, .video]

/-- The first of them without any identifiers. -/
def missingOf? (ids : MediaType → List String) : Option MediaType :=
  directedMedia.find? fun media => ids media = []

variable {ids : MediaType → List String} {direction : Direction} {channels : Conference}

theorem missingOf?_eq_none_iff :
    missingOf? ids = none ↔ ∀ media ∈ directedMedia, ids media ≠ [] := by
  simp [missingOf?]

/-- A request sets the direction of the channels with these identifiers, and asks for
nothing else. -/
structure Request.Directs (request : Request) (direction : Direction)
    (ids : MediaType → List String) : Prop where
  mem_entries : ∀ entry, entry ∈ request.conference.entries ↔
    ∃ media ∈ directedMedia, ∃ id ∈ ids media,
      entry = .channel media { id := some id, direction := some direction }
  bundles : request.conference.bundles = []

theorem Request.Directs.mem_iff {request : Request} (directs : request.Directs direction ids)
    {media : MediaType} (directed : media ∈ directedMedia) {id : String} :
    id ∈ ids media ↔
      .channel media { id := some id, direction := some direction } ∈
        request.conference.entries := by
  rw [directs.mem_entries]
  constructor
  · exact fun listed => ⟨media, directed, id, listed, rfl⟩
  · rintro ⟨_, _, _, listed, same⟩
    cases same
    exact listed

theorem Request.Directs.congr {request : Request} (directs : request.Directs direction ids)
    {others : MediaType → List String}
    (same : ∀ media ∈ directedMedia, ∀ id, id ∈ others media ↔ id ∈ ids media) :
    request.Directs direction others where
  mem_entries := fun entry => (directs.mem_entries entry).trans <|
    exists_congr fun media => and_congr_right fun directed =>
      exists_congr fun id => and_congr_left fun _ => (same media directed id).symm
  bundles := directs.bundles

theorem Intent.mem_entries_setDirection (settings : Settings) {entry : Entry} :
    entry ∈ (Intent.setDirection direction channels).entries settings ↔
      ∃ media ∈ directedMedia, ∃ id ∈ channels.firstChannelIdsFor media,
        entry = .channel media { id := some id, direction := some direction } := by
  rw [entries, List.mem_flatMap]
  refine exists_congr fun media => and_congr_right fun _ => ?_
  rw [Conference.firstChannelIdsFor]
  cases channels.content? media with
  | none => simp
  | some content => simp [eq_comm]

end ConferenceFocus.Colibri

namespace ConferenceFocus.Control

open Colibri

/-- What an exchange is to come to that sets the direction of the channels with these
identifiers: it is refused if there are none of audio, or else none of video, and
otherwise hands over one request, which does just that. -/
inductive Redirects (operation : Operation) (direction : Direction)
    (ids : MediaType → List String) : Exchange Turn → Prop where
  | refused {media : MediaType} {turn : Turn} (missing : missingOf? ids = some media)
      (answer : turn.answer = .failed (.missingMedia operation.label media)) :
      Redirects operation direction ids (.finished turn)
  | directed {request : Request} {resume : Option Failure → Turn}
      (complete : missingOf? ids = none) (answer : ∀ refusal, (resume refusal).answer = .done)
      (directs : request.Directs direction ids) :
      Redirects operation direction ids (.post request resume)

/-- The operation a call is counted under that sets a direction, the descriptor it is
about, and whether the media are to stop. -/
def Call.inactivity? : Call → Option (Operation × Conference × Bool)
  | .mute channels on => some (.muteParticipant, channels, on)
  | .hold channels on => some (.holdParticipant, channels, on)
  | .setBridge _ | .setName _ | .takeJustAllocated | .allocate .. | .expireChannels _
  | .expireConference | .updateCodecs .. | .updateTransports .. | .updateBundle ..
  | .updateSources .. => none

/-- The direction of media that stop, or flow again. -/
def directionOf (inactive : Bool) : Direction :=
  if inactive then .inactive else .sendrecv

namespace Controller

variable {controller : Controller} {channels : Conference} {operation : Operation}

theorem missingMedia?_eq (channels : Conference) :
    missingMedia? channels = missingOf? channels.firstChannelIdsFor := by
  unfold missingMedia? missingOf? directedMedia
  simp only [Conference.allocatedCountFor_eq_length, List.length_eq_zero_iff]

theorem directs_of_compose {bridge : BridgeAddress} {direction : Direction} {request : Request}
    {next : Controller}
    (composed : controller.compose bridge (.setDirection direction channels) =
      (some request, next)) :
    request.Directs direction channels.firstChannelIdsFor := by
  have proper : ∀ entry ∈ (Intent.setDirection direction channels).entries controller.settings,
      entry.role ≠ .bundle := by
    intro entry asked
    obtain ⟨media, _, id, _, rfl⟩ := (Intent.mem_entries_setDirection _).mp asked
    exact Role.noConfusion
  rw [eq_of_compose composed]
  refine ⟨fun entry => ?_, Conference.bundles_foldl_place proper _⟩
  refine (mem_entries_foldl_place _ _ entry).trans ?_
  rw [← Intent.mem_entries_setDirection controller.settings]
  constructor
  · rintro (nothing | ⟨asked, _⟩)
    · cases nothing
    · exact asked
  · exact fun asked => .inr ⟨asked, proper entry asked⟩

/-- A change of direction asks for something once it is not refused. -/
theorem compose_setDirection_ne_none {bridge : BridgeAddress} {direction : Direction}
    (complete : missingOf? channels.firstChannelIdsFor = none) :
    (controller.compose bridge (.setDirection direction channels)).1 ≠ none := by
  intro withheld
  have nothing := compose_eq_none_iff.mp withheld
  have audio : MediaType.audio ∈ directedMedia := List.mem_cons_self
  obtain ⟨id, listed⟩ := List.exists_mem_of_ne_nil _ (missingOf?_eq_none_iff.mp complete _ audio)
  have asked : .channel .audio { id := some id, direction := some direction } ∈
      (Intent.setDirection direction channels).entries controller.settings :=
    (Intent.mem_entries_setDirection _).mpr ⟨_, audio, id, listed, rfl⟩
  rw [nothing] at asked
  cases asked

/-- The channels that are reached are those of the first contents. -/
theorem redirects_setInactive (hosted : controller.bridge.isSome = true) (channels : Conference)
    (operation : Operation) (inactive : Bool) :
    Redirects operation (directionOf inactive) channels.firstChannelIdsFor
      (controller.setInactive operation channels inactive) := by
  obtain ⟨bridge, chosen⟩ := Option.isSome_iff_exists.mp hosted
  unfold setInactive
  cases missing : missingMedia? channels with
  | some media => exact .refused (missingMedia?_eq channels ▸ missing) rfl
  | none =>
      have complete := missingMedia?_eq channels ▸ missing
      simp only [chosen, Option.isNone_some, Bool.false_eq_true, if_false, dispatch]
      rcases composed : controller.compose bridge
        (.setDirection (if inactive then .inactive else .sendrecv) channels) with
        ⟨_ | request, next⟩
      · exact absurd (congrArg Prod.fst composed) (compose_setDirection_ne_none complete)
      · exact .directed complete (fun _ => rfl) (directs_of_compose composed)

end Controller

namespace Redirects

variable {operation : Operation} {direction : Direction} {ids others : MediaType → List String}
  {exchange : Exchange Turn}

/-- What redirects some channels redirects others just if the same is refused to both, and if
nothing is, they are the same channels. -/
theorem others_iff (redirects : Redirects operation direction ids exchange) :
    Redirects operation direction others exchange ↔
      missingOf? others = missingOf? ids ∧
        (missingOf? ids = none →
          ∀ media ∈ directedMedia, ∀ id, id ∈ others media ↔ id ∈ ids media) := by
  cases redirects with
  | @refused media turn missing answer =>
      constructor
      · rintro (⟨otherMissing, otherAnswer⟩ | _)
        have same := otherAnswer.symm.trans answer
        cases same
        exact ⟨otherMissing.trans missing.symm, by simp [missing]⟩
      · rintro ⟨same, _⟩
        exact .refused (same.trans missing) answer
  | directed complete answer directs =>
      constructor
      · rintro (_ | ⟨otherComplete, _, otherDirects⟩)
        exact ⟨otherComplete.trans complete.symm, fun _ media directed id =>
          (otherDirects.mem_iff directed).trans (directs.mem_iff directed).symm⟩
      · rintro ⟨same, equal⟩
        exact .directed (same.trans complete) answer (directs.congr (equal complete))

end Redirects

namespace Controller

variable {controller : Controller} {call : Call} {operation : Operation}
  {channels : Conference} {inactive : Bool}

/-- A change of direction reaches exactly the channels in the first contents of audio and
video, whatever the descriptor.  It reaches exactly the channels of audio and video just if
to look at the first contents only neither makes a medium appear to be without channels nor
leaves a channel out. -/
theorem directions_reach_first_contents (hosted : controller.bridge.isSome = true)
    (asks : call.inactivity? = some (operation, channels, inactive)) :
    Redirects operation (directionOf inactive) channels.firstChannelIdsFor
        (controller.handle call) ∧
      (Redirects operation (directionOf inactive) channels.channelIdsFor
          (controller.handle call) ↔
        missingOf? channels.channelIdsFor = missingOf? channels.firstChannelIdsFor ∧
          (missingOf? channels.firstChannelIdsFor = none → ∀ media ∈ directedMedia,
            channels.channelIdsFor media ⊆ channels.firstChannelIdsFor media)) := by
  have redirects : Redirects operation (directionOf inactive) channels.firstChannelIdsFor
      (controller.handle call) := by
    cases call with
    | mute | hold =>
        cases asks
        exact redirects_setInactive hosted channels _ inactive
    | _ => cases asks
  refine ⟨redirects, redirects.others_iff.trans ?_⟩
  refine and_congr_right fun _ => forall_congr' fun _ => forall₂_congr fun media _ => ?_
  have part := (channels.firstChannelIdsFor_prefix media).subset
  exact ⟨fun same id listed => (same id).mp listed,
    fun covered id => ⟨fun listed => covered listed, fun listed => part listed⟩⟩

/-- Two contents of audio, with data in between.  The second lists a channel that has no
identifier yet, so that nothing is left out. -/
theorem directions_reach_first_contents_of_unnamed_channel :
    let channels : Conference :=
      { contents :=
          [{ media := .audio, channels := [{ id := some "a1" }] },
            { media := .data, connections := [{ id := some "s1" }] },
            { media := .audio, channels := [{ id := none }] },
            { media := .video, channels := [{ id := some "v1" }, { id := some "v2" }] }] }
    let controller : Controller := { bridge := some ⟨"jvb.example.com"⟩ }
    Redirects .holdParticipant .sendrecv channels.channelIdsFor
      (controller.handle (.hold channels false)) := by
  intro channels controller
  have hosted : controller.bridge.isSome = true := rfl
  have asks : (Call.hold channels false).inactivity? =
      some (.holdParticipant, channels, false) := rfl
  obtain ⟨_, reachesAll⟩ := directions_reach_first_contents hosted asks
  exact reachesAll.mpr ⟨by decide, by decide⟩

open Simulation in
/-- A bridge answers an allocation with two contents of audio.  To mute the participant
leaves the channel in the second of them as it is. -/
theorem second_audio_content_left_out :
    let reply : Conference :=
      { id := some ⟨"c1"⟩,
        contents :=
          [{ media := .audio, channels := [{ id := some "a1" }] },
            { media := .audio, channels := [{ id := some "a2" }] },
            { media := .video, channels := [{ id := some "v1" }] }] }
    let controller := ({} : Controller).after [{ call := .setBridge ⟨"jvb.example.com"⟩ }]
    let granted := controller.turn
      { call := .allocate false ⟨"alice"⟩ true (Sample.audioVideo 1 2),
        delivery := .answered (.conference reply) }
    granted.answer = .allocated reply ∧
      ¬ Redirects .muteParticipant .inactive reply.channelIdsFor
        (granted.controller.handle (.mute reply true)) := by
  intro reply controller granted
  have hosted : granted.controller.bridge.isSome = true := by decide
  have redirects := redirects_setInactive hosted reply .muteParticipant true
  refine ⟨by decide, fun reachesAll => ?_⟩
  obtain ⟨_, same⟩ := redirects.others_iff.mp reachesAll
  have listed : "a2" ∈ reply.channelIdsFor .audio := by decide
  exact absurd ((same (by decide) .audio (by decide) "a2").mp listed) (by decide)

end Controller

end ConferenceFocus.Control
