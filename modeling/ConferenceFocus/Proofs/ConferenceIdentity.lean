import ConferenceFocus.Proofs.CallOutcomes
import ConferenceFocus.Proofs.CallRequests
import ConferenceFocus.Proofs.ConfirmedState

/-!
# Identity and address of a conference

Once the bridge has named a conference, the controller keeps both the name and
the bridge until it expires the conference, whatever is replied and whatever
bridge is proposed.  Each request goes to that bridge and says what the
conference is called.
-/

namespace ConferenceFocus.Control

open Colibri

namespace Controller

/-- A request goes to the bridge chosen, and calls the conference what it is called. -/
structure Addressed (controller : Controller) (request : Request) : Prop where
  bridge : controller.bridge = some request.bridge
  id : request.conference.id = controller.state.id
  name : request.conference.name = controller.state.name

theorem Composes.addressed {controller : Controller} {intent : Intent} {request : Request}
    (composes : Composes controller intent request) : Addressed controller request := by
  obtain ⟨bridge, next, chosen, composed⟩ := composes
  rw [eq_of_compose composed]
  obtain ⟨sameId, sameName⟩ := called_foldl_place (intent.entries controller.settings)
    { id := controller.state.id, name := controller.state.name }
  exact ⟨chosen, sameId, sameName⟩

theorem addressed_of_request? {controller : Controller} {call : Call} {request : Request}
    (sent : (controller.handle call).request? = some request) : Addressed controller request := by
  obtain ⟨intent, _, composes⟩ | ⟨_, _, composes⟩ := composes_of_request? sent
  · exact composes.addressed
  · exact composes.addressed

section Turn

variable (controller : Controller) (moment : Moment)

/-- The bridge of a conference that is hosted does not change. -/
theorem bridge_turn (held : controller.state.id.isSome = true) :
    (controller.turn moment).controller.bridge = controller.bridge := by
  obtain ⟨call, delivery, refusal⟩ := moment
  have unmoved {next : Controller} (kept : Kept controller next) :
      next.bridge = controller.bridge := by
    rw [kept]
  cases call with
  | setBridge address =>
      have settled : controller.turn ⟨.setBridge address, delivery, refusal⟩ =
          controller.setBridge address := rfl
      rw [settled]
      rcases controller.setBridge_cases address with same | ⟨conference, _, tied⟩ | ⟨free, _⟩
      · rw [same]
      · rw [tied]
      · rw [free] at held
        cases held
  | setName name => rfl
  | takeJustAllocated => rfl
  | allocate useBundle endpoint initiator contents =>
      cases allocates_settle controller delivery refusal useBundle endpoint initiator
        contents with
      | failed cause answer kept => exact unmoved kept
      | merged reply merged hosted merges answer changed =>
          rw [turn, handle, changed]
          rfl
  | expireConference =>
      obtain ⟨conference, hosted⟩ := Option.isSome_iff_exists.mp held
      have sameBridge := unmoved
        (@kept_dispatch controller delivery refusal .expireConference (.expire controller.state))
      rw [turn, handle, settle_expireConference delivery refusal hosted]
      exact sameBridge
  | _ => exact unmoved (controller.kept_of_spares ⟨_, delivery, refusal⟩ trivial)

/-- A conference keeps its identifier until it is expired. -/
theorem id_turn (held : controller.state.id.isSome = true)
    (lasting : (Event.mk controller moment).expires = false) :
    (controller.turn moment).controller.state.id = controller.state.id := by
  cases controller.outcome moment.call moment.delivery moment.refusal with
  | stays sameId => exact sameId
  | forgets expiry held =>
      rw [Event.expires, expiry, held] at lasting
      cases lasting
  | takes _ _ _ _ _ _ _ _ merges state =>
      obtain ⟨id, _, expected, absorbed⟩ := Conference.called_of_merge merges
      obtain ⟨conference, hosted⟩ := Option.isSome_iff_exists.mp held
      rw [turn, state, absorbed, hosted, expected conference hosted]
      rfl

theorem hosted_turn (hosted : controller.state.id.isSome = true → controller.bridge.isSome = true)
    (held : (controller.turn moment).controller.state.id.isSome = true) :
    (controller.turn moment).controller.bridge.isSome = true := by
  cases controller.outcome moment.call moment.delivery moment.refusal with
  | stays sameId _ chosen =>
      rw [turn, sameId] at held
      exact chosen (hosted held)
  | forgets _ _ forgotten =>
      rw [turn, forgotten] at held
      cases held
  | takes _ _ _ _ _ _ _ _ _ _ chosen => exact chosen

end Turn

theorem hosted_after (settings : Settings) (moments : List Moment)
    (held : (after { settings } moments).state.id.isSome = true) :
    (after { settings } moments).bridge.isSome = true := by
  induction moments using List.reverseRecOn with
  | nil => cases held
  | append_singleton moments moment ih =>
      rw [after_concat] at held ⊢
      exact hosted_turn _ moment ih held

theorem identity_after (controller : Controller) (moments : List Moment)
    (held : controller.state.id.isSome = true)
    (lasting : ∀ event ∈ controller.events moments, event.expires = false) :
    (controller.after moments).state.id = controller.state.id ∧
      (controller.after moments).bridge = controller.bridge := by
  induction moments generalizing controller with
  | nil => exact ⟨rfl, rfl⟩
  | cons moment rest ih =>
      obtain ⟨first, later⟩ := List.forall_mem_cons.mp lasting
      have sameId := controller.id_turn moment held first
      obtain ⟨restId, restBridge⟩ := ih (controller.turn moment).controller (sameId ▸ held) later
      exact ⟨restId.trans sameId, restBridge.trans (controller.bridge_turn moment held)⟩

/-- After any run, a conference that has an identifier has a bridge; from then on
it keeps both until it is expired, whatever is called and whatever is replied.
Every request that a call hands over goes to the bridge and carries the
identifier and the name held when the call is made, the request of an expiry the
identifier that is given up with it. -/
theorem stable_identity (settings : Settings) (moments : List Moment) :
    let controller := after { settings } moments
    (controller.state.id.isSome = true → controller.bridge.isSome = true) ∧
      (controller.state.id.isSome = true → ∀ more : List Moment,
        (∀ event ∈ controller.events more, event.expires = false) →
          (controller.after more).state.id = controller.state.id ∧
            (controller.after more).bridge = controller.bridge) ∧
      ∀ (call : Call) (request : Request), (controller.handle call).request? = some request →
        Addressed controller request ∧
          (call = .expireConference → request.conference.id.isSome = true) := by
  intro controller
  refine ⟨hosted_after settings moments, fun held more => identity_after controller more held,
    fun call request sent => ?_⟩
  have addressed := addressed_of_request? sent
  refine ⟨addressed, ?_⟩
  rintro rfl
  obtain ⟨intent, wanted, _⟩ | ⟨_, held, _⟩ := composes_of_request? sent
  · cases wanted
  · rw [addressed.id]
    exact held

open Simulation in
/-- Another bridge is proposed, and another conference is replied, before the
conference is named and expired. -/
theorem stable_identity_of_refused_move :
    let reply (id : String) : Delivery := .answered (.conference
      { id := some ⟨id⟩, contents := [{ media := .audio, channels := [{ id := some "a" }] }] })
    let allocation : Call := .allocate true ⟨"alice"⟩ true [Sample.audioContent 1]
    let moments : List Moment :=
      [{ call := .setBridge ⟨"bridge"⟩ }, { call := allocation, delivery := reply "first" }]
    let more : List Moment :=
      [{ call := .setBridge ⟨"other"⟩ }, { call := allocation, delivery := reply "second" },
        { call := .setName "room" }]
    let controller := after {} moments
    let last := after {} (moments ++ more)
    controller.state.id = some ⟨"first"⟩ ∧
      ((controller.after more).state.id = controller.state.id ∧
        (controller.after more).bridge = controller.bridge) ∧
      ∃ request, (last.handle .expireConference).request? = some request ∧
        Addressed last request ∧ request.conference.id.isSome = true := by
  intro reply allocation moments more controller last
  have held : controller.state.id = some ⟨"first"⟩ := by decide
  obtain ⟨request, sent⟩ : ∃ request, (last.handle .expireConference).request? = some request :=
    Option.isSome_iff_exists.mp (by decide)
  obtain ⟨addressed, named⟩ :=
    (stable_identity {} (moments ++ more)).2.2 .expireConference request sent
  refine ⟨held, ?_, request, sent, addressed, named rfl⟩
  exact (stable_identity {} moments).2.1 (by rw [held]; rfl) more (by decide)

end Controller

end ConferenceFocus.Control
