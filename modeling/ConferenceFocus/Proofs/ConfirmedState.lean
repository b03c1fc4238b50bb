import Mathlib.Data.List.DropRight
import ConferenceFocus.Proofs.ControllerTurns
import ConferenceFocus.Simulation.Sample

/-!
# The confirmed state of a controller

Only allocations that succeed, the expiry of a conference, naming, and the
choice of a bridge leave a trace in a controller beyond its request numbers.
What it holds as the confirmed conference can therefore be recomputed from the
log of a run: start from nothing at the last expiry, and merge the replies that
were accepted since, with the names that were given between them.
-/

namespace ConferenceFocus.Control

open Colibri

/-- A moment of a run together with the controller that met it. -/
structure Event where
  before : Controller
  moment : Moment

inductive Confirmation where
  | reply (body : Conference)
  | naming (name : String)
  deriving DecidableEq, Repr

namespace Confirmation

/-- Takes a confirmation in; a reply may turn out not to fit. -/
def applyTo (conference : Conference) : Confirmation → Except Failure Conference
  | .reply body => conference.merge body
  | .naming name => .ok { conference with name := some name }

end Confirmation

namespace Event

def turn (event : Event) : Turn := event.before.turn event.moment

def expires (event : Event) : Bool :=
  match event.moment.call with
  | .expireConference => event.before.state.id.isSome
  | _ => false

def confirmation? (event : Event) : Option Confirmation :=
  match event.moment.call, event.moment.delivery, event.turn.answer with
  | .setName name, _, _ => some (.naming name)
  | .allocate .., .answered (.conference body), .allocated _ => some (.reply body)
  | _, _, _ => none

end Event

namespace Controller

def events (controller : Controller) : List Moment → List Event
  | [] => []
  | moment :: rest =>
      { before := controller, moment } :: (controller.turn moment).controller.events rest

/-- What has been confirmed since the conference was last expired, if it ever was. -/
def confirmations (controller : Controller) (moments : List Moment) : List Confirmation :=
  ((controller.events moments).rtakeWhile (!·.expires)).filterMap (·.confirmation?)

/-- The calls that leave all but the request numbers alone, by how they end. -/
def Spares (controller : Controller) (call : Call) (answer : Answer) : Prop :=
  match call with
  | .allocate .. | .setBridge _ => ∃ cause, answer = .failed cause
  | .expireConference => controller.state.id = none
  | .expireChannels _ | .updateCodecs .. | .updateTransports .. | .updateBundle ..
  | .updateSources .. | .mute .. | .hold .. => True
  | .setName _ | .takeJustAllocated => False

variable (controller : Controller) (moment : Moment)

theorem kept_of_spares
    (spares : controller.Spares moment.call (controller.turn moment).answer) :
    Kept controller (controller.turn moment).controller := by
  obtain ⟨call, delivery, refusal⟩ := moment
  cases call with
  | setBridge address =>
      obtain ⟨cause, failed⟩ := spares
      have settled : controller.turn ⟨.setBridge address, delivery, refusal⟩ =
          controller.setBridge address := rfl
      rw [settled] at failed ⊢
      rcases controller.setBridge_cases address with same | ⟨conference, _, tied⟩ | ⟨_, chosen⟩
      · rw [same]
        exact .refl controller
      · rw [tied]
        exact .refl controller
      · rw [chosen] at failed
        cases failed
  | setName name => exact spares.elim
  | takeJustAllocated => exact spares.elim
  | allocate useBundle endpoint initiator contents =>
      obtain ⟨cause, failed⟩ := spares
      cases allocates_settle controller delivery refusal useBundle endpoint initiator
        contents with
      | failed other answer kept => exact kept
      | merged reply merged hosted merges answer changed =>
          exact absurd (answer.symm.trans failed) (by simp)
  | expireConference =>
      have absent : controller.state.id = none := spares
      simp only [turn, handle, expireConference, absent]
      exact .refl controller
  | updateSources streams channels => exact kept_updateSources streams channels
  | mute channels on => exact kept_setInactive _ channels on
  | hold channels on => exact kept_setInactive _ channels on
  | expireChannels channels => exact kept_dispatch _ _
  | updateCodecs descriptions channels => exact kept_dispatch _ _
  | updateTransports initiator transports channels => exact kept_dispatch _ _
  | updateBundle initiator transport channels => exact kept_dispatch _ _

end Controller

namespace Event

theorem state_of_expires {event : Event} (expires : event.expires = true) :
    event.turn.controller.state = {} := by
  obtain ⟨before, ⟨call, delivery, refusal⟩⟩ := event
  cases call with
  | expireConference =>
      obtain ⟨conference, hosted⟩ := Option.isSome_iff_exists.mp expires
      have settled := Controller.settle_expireConference delivery refusal hosted
      exact congrArg (fun turn => turn.controller.state) settled
  | _ => cases expires

theorem state_of_not_expires {event : Event} (lasting : event.expires = false) :
    event.confirmation?.toList.foldlM Confirmation.applyTo event.before.state =
      .ok event.turn.controller.state := by
  obtain ⟨before, ⟨call, delivery, refusal⟩⟩ := event
  -- Unless something is confirmed, the state is the one before.
  have unchanged {next : Controller} (kept : Controller.Kept before next) :
      ([] : List Confirmation).foldlM Confirmation.applyTo before.state = .ok next.state := by
    rw [kept]
    rfl
  cases call with
  | setName name => rfl
  | takeJustAllocated => rfl
  | setBridge address =>
      have outcome : (Event.mk before ⟨.setBridge address, delivery, refusal⟩).turn =
          before.setBridge address := rfl
      rw [outcome]
      rcases before.setBridge_cases address with same | ⟨conference, _, tied⟩ | ⟨_, chosen⟩
      · exact unchanged (by rw [same]; exact .refl before)
      · exact unchanged (by rw [tied]; exact .refl before)
      · rw [chosen]
        rfl
  | expireConference =>
      have absent : before.state.id = none := by
        simpa [expires] using lasting
      exact unchanged (Controller.kept_of_spares before ⟨_, delivery, refusal⟩ absent)
  | allocate useBundle endpoint initiator contents =>
      let event : Event :=
        ⟨before, ⟨.allocate useBundle endpoint initiator contents, delivery, refusal⟩⟩
      have ended : Controller.Allocates before contents delivery event.turn :=
        Controller.allocates_settle before delivery refusal useBundle endpoint initiator contents
      change event.confirmation?.toList.foldlM Confirmation.applyTo before.state =
        .ok event.turn.controller.state
      generalize outcome : event.turn = turn at ended ⊢
      cases ended with
      | failed cause answer kept =>
          have nothing : event.confirmation? = none := by
            simp only [confirmation?, outcome, answer, event]
          rw [nothing]
          exact unchanged kept
      | merged reply merged hosted merges answer changed =>
          have accepted : event.confirmation? = some (.reply reply) := by
            simp only [confirmation?, outcome, answer, event]
          rw [accepted, changed]
          simp [Confirmation.applyTo, merges, Controller.confirm]
  | _ => exact unchanged (Controller.kept_of_spares before ⟨_, delivery, refusal⟩ trivial)

end Event

namespace Controller

theorem after_concat (controller : Controller) (moments : List Moment) (moment : Moment) :
    controller.after (moments ++ [moment]) =
      ((controller.after moments).turn moment).controller := by
  simp [after]

theorem events_concat (controller : Controller) (moments : List Moment) (moment : Moment) :
    controller.events (moments ++ [moment]) =
      controller.events moments ++ [{ before := controller.after moments, moment }] := by
  induction moments generalizing controller with
  | nil => rfl
  | cons first rest ih => simp only [List.cons_append, events, ih, after, List.foldl_cons]

/-- A moment of a run is met by the controller as the moments before have left it. -/
theorem exists_of_mem_events {controller : Controller} {moments : List Moment} {event : Event}
    (met : event ∈ controller.events moments) :
    ∃ earlier, earlier ++ [event.moment] <+: moments ∧
      event.before = controller.after earlier := by
  induction moments generalizing controller with
  | nil => cases met
  | cons first rest ih =>
      rcases List.mem_cons.mp met with rfl | later
      · exact ⟨[], by simp, rfl⟩
      · obtain ⟨earlier, reached, before⟩ := ih later
        exact ⟨first :: earlier, List.cons_prefix_cons.mpr ⟨rfl, reached⟩, before⟩

theorem foldlM_confirmations (settings : Settings) (moments : List Moment) :
    (confirmations { settings } moments).foldlM Confirmation.applyTo {} =
      .ok (after { settings } moments).state := by
  -- Whether the last moment expires the conference decides what is left of the log.
  induction moments using List.reverseRecOn with
  | nil => rfl
  | append_singleton moments moment ih =>
      let last : Event := { before := after { settings } moments, moment }
      rw [after_concat, confirmations, events_concat]
      cases expires : last.expires with
      | true =>
          have nothing : (events { settings } moments ++ [last]).rtakeWhile (!·.expires) = [] := by
            rw [List.rtakeWhile_concat_neg]
            simp [expires]
          rw [nothing, show (after { settings } moments).turn moment = last.turn from rfl,
            Event.state_of_expires expires]
          rfl
      | false =>
          have more : (events { settings } moments ++ [last]).rtakeWhile (!·.expires) =
              (events { settings } moments).rtakeWhile (!·.expires) ++ [last] := by
            rw [List.rtakeWhile_concat_pos]
            simp [expires]
          have single : [last].filterMap (·.confirmation?) = last.confirmation?.toList := by
            cases confirmed : last.confirmation? <;> simp [confirmed]
          rw [more, List.filterMap_append, List.foldlM_append, single]
          unfold confirmations at ih
          rw [ih]
          exact Event.state_of_not_expires expires

/-- What is confirmed changes only by what is confirmed: a call that is spared
touches nothing but the request numbers, and after any run the conference held
is the fold of the replies accepted, and of the names given, since the last
expiry. -/
theorem confirmed_state (settings : Settings) (moments : List Moment) :
    let controller := after { settings } moments
    (∀ moment : Moment,
      controller.Spares moment.call (controller.turn moment).answer →
        (controller.turn moment).controller =
          { controller with lastSeq := (controller.turn moment).controller.lastSeq }) ∧
      (confirmations { settings } moments).foldlM Confirmation.applyTo {} =
        .ok controller.state :=
  ⟨fun moment spares => kept_of_spares _ moment spares, foldlM_confirmations settings moments⟩

open Simulation in
/-- A second conference after an expiry, and then a reply with an unnamed channel
that is only found out when it is about to be merged. -/
theorem confirmed_state_of_second_conference :
    let reply (id channel : String) : Delivery := .answered (.conference
      { id := some ⟨id⟩, contents := [{ media := .audio, channels := [{ id := some channel }] }] })
    let allocation : Call := .allocate true ⟨"alice"⟩ true [Sample.audioContent 1]
    let moments : List Moment :=
      [{ call := .setBridge ⟨"bridge"⟩ }, { call := allocation, delivery := reply "first" "a" },
        { call := .expireConference }, { call := allocation, delivery := reply "second" "b" }]
    let bad : Moment :=
      { call := allocation,
        delivery := .answered (.conference
          { id := some ⟨"second"⟩, contents := [{ media := .audio, channels := [{}] }] }) }
    let controller := after {} moments
    (controller.turn bad).answer = .failed (.unnamedChannel .audio) ∧
      (controller.turn bad).controller =
        { controller with lastSeq := (controller.turn bad).controller.lastSeq } ∧
      (confirmations {} moments).length = 1 ∧
      (confirmations {} moments).foldlM Confirmation.applyTo {} = .ok controller.state := by
  intro reply allocation moments bad controller
  have failed : (controller.turn bad).answer = .failed (.unnamedChannel .audio) := by decide
  exact ⟨failed, (confirmed_state {} moments).1 bad ⟨_, failed⟩, by decide,
    (confirmed_state {} moments).2⟩

end Controller

end ConferenceFocus.Control
