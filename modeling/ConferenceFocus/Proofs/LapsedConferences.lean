import ConferenceFocus.Proofs.ConferenceIdentity
import ConferenceFocus.Proofs.ConnectedRuns
import ConferenceFocus.Proofs.SendingConditions

/-!
# Requests after an expiry

A request that names no conference makes the bridge open one.  Allocations send
such requests to begin with.  Any other call sends one exactly while the
conference is lapsed, that is expired and not allocated again, if its descriptor,
which then is a stale one, leaves the call something to ask.
-/

namespace ConferenceFocus.Control

open Colibri

theorem Event.expires_iff {event : Event} :
    event.expires = true ↔
      event.moment.call = .expireConference ∧ event.before.state.id.isSome = true := by
  obtain ⟨before, ⟨call, delivery, refusal⟩⟩ := event
  cases call <;> simp [Event.expires]

namespace Controller

section Lapsed

variable (controller : Controller) (moments : List Moment)

/-- The descriptors that the allocations of a run have returned, in their order. -/
def grants : List Conference :=
  (controller.events moments).filterMap (·.turn.answer.granted?)

/-- The conference has been expired, and no allocation has succeeded since. -/
def Lapsed : Prop :=
  (∃ event ∈ controller.events moments, event.expires = true) ∧
    ∀ event ∈ (controller.events moments).rtakeWhile (!·.expires),
      event.turn.answer.granted? = none

instance : Decidable (controller.Lapsed moments) :=
  inferInstanceAs (Decidable (_ ∧ _))

/-- The descriptor passed in, if there is one, was returned by an earlier allocation. -/
def OnlyGranted (call : Call) : Prop :=
  ∀ channels ∈ call.channels?, channels ∈ controller.grants moments

instance (call : Call) : Decidable (controller.OnlyGranted moments call) :=
  inferInstanceAs (Decidable (∀ channels ∈ call.channels?, _))

theorem grants_concat (moment : Moment) :
    controller.grants (moments ++ [moment]) =
      controller.grants moments ++
        ((controller.after moments).turn moment).answer.granted?.toList := by
  rw [grants, events_concat, List.filterMap_append]
  congr 1

/-- Whether a run lapses by its last moment, or was lapsed before and still is. -/
theorem lapsed_concat (moment : Moment) :
    controller.Lapsed (moments ++ [moment]) ↔
      (Event.mk (controller.after moments) moment).expires = true ∨
        controller.Lapsed moments ∧
          ((controller.after moments).turn moment).answer.granted? = none := by
  let last : Event := { before := controller.after moments, moment }
  unfold Lapsed
  rw [events_concat]
  cases expires : last.expires with
  | true =>
      rw [List.rtakeWhile_concat_neg _ _ _ (by simpa using expires)]
      refine iff_of_true ⟨⟨last, by simp [last], expires⟩, by simp⟩ (.inl rfl)
  | false =>
      rw [List.rtakeWhile_concat_pos _ _ _ (by simpa using expires)]
      constructor
      · rintro ⟨⟨event, listed, expiry⟩, lasting⟩
        rcases List.mem_append.mp listed with earlier | newest
        · refine .inr ⟨⟨⟨event, earlier, expiry⟩, fun other present => ?_⟩, ?_⟩
          · exact lasting other (List.mem_append_left _ present)
          · exact lasting last (List.mem_append_right _ (List.mem_singleton_self last))
        · rw [List.mem_singleton.mp newest, expires] at expiry
          cases expiry
      · rintro (now | ⟨⟨⟨event, earlier, expiry⟩, lasting⟩, nothing⟩)
        · cases now
        · refine ⟨⟨event, List.mem_append_left _ earlier, expiry⟩, fun other present => ?_⟩
          rcases List.mem_append.mp present with before | newest
          · exact lasting other before
          · rw [List.mem_singleton.mp newest]
            exact nothing

end Lapsed

section Runs

variable (settings : Settings) (moments : List Moment)

/-- No conference is held before the first allocation, and while it is lapsed. -/
theorem id_eq_none_iff :
    (after { settings } moments).state.id = none ↔
      grants { settings } moments = [] ∨ Lapsed { settings } moments := by
  induction moments using List.reverseRecOn with
  | nil => exact iff_of_true rfl (.inl rfl)
  | append_singleton moments moment ih =>
      rw [after_concat, grants_concat, lapsed_concat, Event.expires_iff]
      cases (after { settings } moments).outcome moment.call moment.delivery moment.refusal with
      | stays sameId _ _ nothing spared =>
          rw [turn, sameId, nothing, ih, Option.toList_none, List.append_nil]
          refine or_congr_right ⟨fun lapsed => .inr ⟨lapsed, rfl⟩, ?_⟩
          rintro (⟨expiry, held⟩ | ⟨lapsed, _⟩)
          · dsimp only at expiry held
            rw [spared expiry] at held
            cases held
          · exact lapsed
      | forgets expiry held forgotten nothing =>
          rw [turn, forgotten]
          exact iff_of_true rfl (.inr (.inl ⟨expiry, held⟩))
      | takes useBundle endpoint initiator contents reply merged allocation delivered merges state
          chosen answer =>
          obtain ⟨id, _, rfl⟩ := Conference.absorb_of_merge merges
          rw [turn, state, answer]
          refine iff_of_false (by simp [Conference.absorb]) ?_
          rintro (none | ⟨expiry, _⟩ | ⟨_, nothing⟩)
          · simp [Answer.granted?] at none
          · cases allocation.symm.trans expiry
          · cases nothing

/-- Once something has been granted, a bridge is chosen for good. -/
theorem hosted_of_grants (granted : grants { settings } moments ≠ []) :
    (after { settings } moments).bridge.isSome = true := by
  induction moments using List.reverseRecOn with
  | nil => exact absurd rfl granted
  | append_singleton moments moment ih =>
      rw [grants_concat] at granted
      rw [after_concat]
      cases (after { settings } moments).outcome moment.call moment.delivery moment.refusal with
      | stays _ _ chosen nothing =>
          rw [turn, nothing, Option.toList_none, List.append_nil] at granted
          exact chosen (ih granted)
      | forgets _ held _ _ =>
          rw [bridge_turn _ moment held]
          exact hosted_after settings moments held
      | takes _ _ _ _ _ _ _ _ _ _ chosen => exact chosen

variable {settings moments}

/-- With no conference held, only a call about a descriptor asks for anything,
allocations apart. -/
theorem grants_ne_nil {call : Call} (granted : OnlyGranted { settings } moments call)
    (update : ∀ useBundle endpoint initiator contents,
      call ≠ .allocate useBundle endpoint initiator contents)
    (vacant : (after { settings } moments).state.id = none) {intent : Intent}
    (wanted : intent ∈ (after { settings } moments).intent? call) :
    grants { settings } moments ≠ [] := by
  have wanted : call.intent? = some intent := by
    cases call with
    | expireConference =>
        rw [intent?, vacant] at wanted
        cases wanted
    | mute | hold =>
        unfold intent? at wanted
        dsimp only at wanted
        split at wanted
        · exact wanted
        · cases wanted
    | _ => exact wanted
  cases about : intent.channels? with
  | none =>
      obtain ⟨_, _, _, _, same⟩ := Call.eq_allocate_of_intent? wanted about
      exact absurd same (update _ _ _ _)
  | some channels =>
      refine List.ne_nil_of_mem (granted channels ?_)
      rw [Call.channels?, wanted]
      exact about

/-- Of the calls other than allocations, those and only those send a request that
names no conference that are made while the conference is lapsed, and still find
something to ask in a descriptor it had. -/
theorem anonymous_iff_lapsed {call : Call} (granted : OnlyGranted { settings } moments call)
    (update : ∀ useBundle endpoint initiator contents,
      call ≠ .allocate useBundle endpoint initiator contents) :
    let controller := after { settings } moments
    (∃ request, (controller.handle call).request? = some request ∧
        request.conference.id = none) ↔
      Lapsed { settings } moments ∧
        ∃ intent ∈ controller.intent? call, intent.entries controller.settings ≠ [] := by
  intro controller
  constructor
  · rintro ⟨request, sent, anonymous⟩
    have vacant : controller.state.id = none := (addressed_of_request? sent).id.symm.trans anonymous
    obtain ⟨_, intent, wanted, asks⟩ :=
      (isSome_request?_iff controller call).mp (by rw [sent]; rfl)
    refine ⟨((id_eq_none_iff settings moments).mp vacant).resolve_left ?_, intent, wanted, asks⟩
    exact grants_ne_nil granted update vacant wanted
  · rintro ⟨lapsed, intent, wanted, asks⟩
    have vacant : controller.state.id = none := (id_eq_none_iff settings moments).mpr (.inr lapsed)
    have hosted := hosted_of_grants settings moments (grants_ne_nil granted update vacant wanted)
    obtain ⟨request, sent⟩ := Option.isSome_iff_exists.mp
      ((isSome_request?_iff controller call).mpr ⟨hosted, intent, wanted, asks⟩)
    exact ⟨request, sent, (addressed_of_request? sent).id.trans vacant⟩

open Simulation in
/-- A transport is sent for a descriptor after the conference was expired, which
opens another one, and sent again once there is one. -/
theorem anonymous_iff_lapsed_of_late_transport :
    let reply (id : String) : Delivery := .answered (.conference
      { id := some ⟨id⟩, contents := [{ media := .audio, channels := [{ id := some "a" }] }] })
    let allocation : Call := .allocate true ⟨"alice"⟩ true [Sample.audioContent 1]
    let moments : List Moment :=
      [{ call := .setBridge ⟨"bridge"⟩ }, { call := allocation, delivery := reply "first" },
        { call := .expireConference }]
    let renewed := moments ++ [{ call := allocation, delivery := reply "second" }]
    let alice := (grants {} moments).headD {}
    let update : Call := .updateTransports true
      (MediaMap.insert ∅ .audio (Sample.transport "late")) alice
    let Anonymous (run : List Moment) : Prop :=
      ∃ request, ((after {} run).handle update).request? = some request ∧
        request.conference.id = none
    alice.contents ≠ [] ∧ Anonymous moments ∧ ¬Anonymous renewed ∧
      ((after {} renewed).handle update).request?.isSome = true := by
  intro reply allocation moments renewed alice update Anonymous
  have anonymous : Anonymous moments :=
    (anonymous_iff_lapsed (by decide) (fun _ _ _ _ => Call.noConfusion)).mpr (by decide)
  have named : ¬Anonymous renewed := fun opens =>
    absurd ((anonymous_iff_lapsed (by decide) (fun _ _ _ _ => Call.noConfusion)).mp opens).1
      (by decide)
  exact ⟨by decide, anonymous, named, by decide⟩

end Runs

end Controller

end ConferenceFocus.Control

namespace ConferenceFocus.Connected

open Colibri Control Simulation

/-- An update for a descriptor of a conference that has been expired is refused by
the bridge, but has it open an empty conference that nobody knows of. -/
theorem late_update_opens_conference :
    let run := [Call.setBridge SimulatedBridge.address,
        .allocate true ⟨"alice"⟩ true [Sample.audioContent 1], .expireConference].foldl
      (step tally) { controller := {} }
    let update : Call := .updateCodecs (MediaMap.insert ∅ .audio Sample.audioDescription)
      (run.granted.headD {})
    let later := run.step tally update
    Reachable tally OnlyGranted { controller := {} } run ∧ OnlyGranted run update ∧
      (∃ request, (run.controller.handle update).request? = some request ∧
        request.conference.id = none) ∧
      run.bridge.conferences = [] ∧
      later.bridge.conferences.map (fun hosted => hosted.channels.length) = [0] ∧
      later.controller.state.id = none := by
  intro run update later
  have founded : Reachable tally OnlyGranted { controller := {} } { controller := {} } := .start
  have chosen := founded.step (.setBridge SimulatedBridge.address) (by decide)
  have allocated := chosen.step (.allocate true ⟨"alice"⟩ true [Sample.audioContent 1]) (by decide)
  exact ⟨allocated.step .expireConference (by decide), by decide, by decide, by decide,
    by decide, by decide⟩

end ConferenceFocus.Connected
