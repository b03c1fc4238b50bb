import ConferenceFocus.Control.Call
import ConferenceFocus.Proofs.DraftLoops

/-!
# Turns of a controller

A `Moment` is a call together with what the far end does about it, be it a
reply, a refusal or silence.  Every call over every link is such a moment, so
that a statement about all moments covers all far ends.  The lemmas here say
once what each call can do to the controller.
-/

namespace ConferenceFocus.Control

open Colibri

namespace Exchange

/-- The result of an exchange whose request meets this delivery, or this refusal. -/
def settle {α : Type} (delivery : Delivery) (refusal : Option Failure) : Exchange α → α
  | finished result => result
  | ask _ resume => resume delivery
  | post _ resume => resume refusal

@[simp] theorem settle_map {α β : Type} (delivery : Delivery) (refusal : Option Failure)
    (function : α → β) (exchange : Exchange α) :
    (exchange.map function).settle delivery refusal =
      function (exchange.settle delivery refusal) := by
  cases exchange <;> rfl

theorem run_eq_settle {α σ : Type} (link : Link σ) (peer : σ) (exchange : Exchange α) :
    ∃ delivery refusal, (exchange.run link peer).1 = exchange.settle delivery refusal := by
  cases exchange with
  | finished result => exact ⟨.silence, none, rfl⟩
  | ask request resume => exact ⟨(link.ask request peer).1, none, rfl⟩
  | post request resume => exact ⟨.silence, (link.post request peer).1, rfl⟩

end Exchange

structure Moment where
  call : Call
  delivery : Delivery := .silence
  refusal : Option Failure := none

namespace Controller

def turn (controller : Controller) (moment : Moment) : Turn :=
  (controller.handle moment.call).settle moment.delivery moment.refusal

def after (controller : Controller) (moments : List Moment) : Controller :=
  moments.foldl (fun current moment => (current.turn moment).controller) controller

/-- A call over a link is a moment of it. -/
theorem call_eq_turn {σ : Type} (link : Link σ) (controller : Controller) (peer : σ)
    (call : Call) :
    ∃ delivery refusal, (controller.call link peer call).1 =
      controller.turn { call, delivery, refusal } :=
  (controller.handle call).run_eq_settle link peer

/-- Nothing has changed but the number of the last request. -/
def Kept (before after : Controller) : Prop :=
  after = { before with lastSeq := after.lastSeq }

theorem Kept.refl (controller : Controller) : Kept controller controller :=
  rfl

section Composing

variable (controller : Controller) (bridge : BridgeAddress) (intent : Intent)

/-- Nothing is composed for an intent that asks for nothing, and then no number is drawn.
Otherwise the number drawn goes to the request for the intent. -/
theorem compose_eq :
    controller.compose bridge intent =
      if intent.entries controller.settings = [] then (none, controller)
      else
        (some
          { bridge, seq := controller.lastSeq + 1,
            conference := (intent.entries controller.settings).foldl Conference.place
              { id := controller.state.id, name := controller.state.name } },
          { controller with lastSeq := controller.lastSeq + 1 }) := by
  have request := Draft.request?_add_about controller.settings controller.state.id
    controller.state.name intent bridge (controller.lastSeq + 1)
  have told : ((Draft.about controller.settings controller.state.id controller.state.name).add
      intent).2 = !(intent.entries controller.settings).isEmpty := by
    rw [Draft.add_eq_gather]
    rfl
  unfold compose drawSeq
  dsimp only
  rw [told, request]
  cases intent.entries controller.settings <;> rfl

variable {controller bridge intent} {next : Controller}

theorem kept_of_compose {request? : Option Request}
    (composed : controller.compose bridge intent = (request?, next)) : Kept controller next := by
  rw [compose_eq] at composed
  split at composed <;> cases composed <;> rfl

theorem eq_of_compose_eq_none (withheld : controller.compose bridge intent = (none, next)) :
    next = controller := by
  rw [compose_eq] at withheld
  split at withheld <;> cases withheld
  rfl

end Composing

variable {controller : Controller} {delivery : Delivery} {refusal : Option Failure}

theorem kept_dispatch (operation : Operation) (intent : Intent) :
    Kept controller
      ((controller.dispatch operation intent).settle delivery refusal).controller := by
  unfold dispatch
  cases controller.bridge with
  | none => exact .refl controller
  | some bridge =>
      dsimp only
      rcases composed : controller.compose bridge intent with ⟨_ | request, next⟩
      · exact kept_of_compose composed
      · exact kept_of_compose composed

theorem settle_expireConference (delivery : Delivery) (refusal : Option Failure)
    {conference : ConferenceId} (hosted : controller.state.id = some conference) :
    let sent := (controller.dispatch .expireConference (.expire controller.state)).settle
      delivery refusal
    controller.expireConference.settle delivery refusal =
      { sent with controller := sent.controller.forget } := by
  rw [expireConference, hosted]
  exact Exchange.settle_map delivery refusal _ _

theorem setBridge_cases (controller : Controller) (address : BridgeAddress) :
    controller.setBridge address = { controller } ∨
      (∃ conference, controller.state.id = some conference ∧
        controller.setBridge address =
          { controller, answer := .failed (.alreadyHosted conference address) }) ∨
      (controller.state.id = none ∧
        controller.setBridge address =
          { controller := { controller with bridge := some address } }) := by
  unfold setBridge
  by_cases same : controller.bridge = some address
  · exact .inl (if_pos same)
  · rw [if_neg same]
    cases hosted : controller.state.id with
    | none => exact .inr (.inr ⟨rfl, rfl⟩)
    | some conference => exact .inr (.inl ⟨conference, rfl, rfl⟩)

theorem kept_updateSources (streams : Streams) (channels : Conference) :
    Kept controller
      ((controller.updateSources streams channels).settle delivery refusal).controller := by
  unfold updateSources
  cases controller.bridge with
  | none => exact .refl controller
  | some bridge =>
      dsimp only
      rcases composed : controller.compose bridge (.replaceStreams streams channels) with
        ⟨_ | request, next⟩
      · exact kept_of_compose composed
      · exact kept_of_compose composed

theorem kept_setInactive (operation : Operation) (channels : Conference) (inactive : Bool) :
    Kept controller
      ((controller.setInactive operation channels inactive).settle delivery
        refusal).controller := by
  unfold setInactive
  dsimp only
  split
  · exact .refl controller
  · split
    · exact .refl controller
    · exact kept_dispatch operation _

/-- The end of an allocation: it fails and changes nothing, or it is answered by
a conference that is merged. -/
inductive Allocates (controller : Controller) (contents : List MediaContent) :
    Delivery → Turn → Prop where
  | failed {delivery : Delivery} {turn : Turn} (cause : Failure)
      (answer : turn.answer = .failed cause) (kept : Kept controller turn.controller) :
      Allocates controller contents delivery turn
  | merged {turn : Turn} (reply merged : Conference) (hosted : controller.bridge.isSome = true)
      (merges : controller.state.merge reply = .ok merged)
      (answer : turn.answer = .allocated (reply.restrictTo contents))
      (changed : turn.controller =
        { controller.confirm merged with
          justAllocated := controller.justAllocated || controller.state.id.isNone,
          lastSeq := turn.controller.lastSeq }) :
      Allocates controller contents (.answered (.conference reply)) turn

theorem settleAllocation_of_merge {bridge : BridgeAddress} {contents : List MediaContent}
    {reply merged : Conference} (merges : controller.state.merge reply = .ok merged) :
    controller.settleAllocation bridge contents (.answered (.conference reply)) =
      .ok (reply.restrictTo contents,
        { controller.confirm merged with
          justAllocated := controller.justAllocated || controller.state.id.isNone }) := by
  simp [settleAllocation, allocationReply, merges, bind, Except.bind, pure, Except.pure]

theorem allocates_finish {next : Controller} {contents : List MediaContent}
    {bridge : BridgeAddress} (hosted : controller.bridge = some bridge)
    (kept : Kept controller next) :
    Allocates controller contents delivery
      (next.finishAllocation (next.settleAllocation bridge contents delivery)) := by
  have sameState : next.state = controller.state := by rw [kept]
  have sameSignal : next.justAllocated = controller.justAllocated := by rw [kept]
  cases delivery with
  | refused cause => exact .failed cause rfl kept
  | silence => exact .failed _ rfl kept
  | answered reply =>
      cases reply with
      | error condition => exact .failed _ rfl kept
      | unexpected kind => exact .failed _ rfl kept
      | conference body =>
          cases merges : next.state.merge body with
          | error cause =>
              have outcome : next.settleAllocation bridge contents
                  (.answered (.conference body)) = .error cause := by
                simp [settleAllocation, allocationReply, merges, bind, Except.bind]
              rw [outcome]
              exact .failed cause rfl kept
          | ok merged =>
              rw [settleAllocation_of_merge merges]
              refine .merged body merged (by simp [hosted]) (sameState ▸ merges) rfl ?_
              rw [sameState, sameSignal]
              simp only [finishAllocation, confirm]
              rw [kept]

theorem allocates_settle (controller : Controller) (delivery : Delivery)
    (refusal : Option Failure) (useBundle : Bool) (endpoint : EndpointId) (initiator : Bool)
    (contents : List MediaContent) :
    Allocates controller contents delivery
      ((controller.allocate useBundle endpoint initiator contents).settle delivery refusal) := by
  unfold allocate
  cases hosted : controller.bridge with
  | none => exact .failed _ rfl (.refl controller)
  | some bridge =>
      dsimp only
      rcases composed : controller.compose bridge (.allocate useBundle endpoint initiator
        contents) with ⟨_ | request, next⟩
      · exact .failed _ rfl (kept_of_compose composed)
      · exact allocates_finish hosted (kept_of_compose composed)

theorem answer_allocate_of_merge (refusal : Option Failure) {useBundle : Bool}
    {endpoint : EndpointId} {initiator : Bool} {contents : List MediaContent} {request : Request}
    (sent : (controller.allocate useBundle endpoint initiator contents).request? = some request)
    {reply merged : Conference} (merges : controller.state.merge reply = .ok merged) :
    ((controller.allocate useBundle endpoint initiator contents).settle
      (.answered (.conference reply)) refusal).answer =
        .allocated (reply.restrictTo contents) := by
  unfold allocate at sent ⊢
  cases chosen : controller.bridge with
  | none =>
      rw [chosen] at sent
      cases sent
  | some bridge =>
      rw [chosen] at sent
      dsimp only at sent ⊢
      rcases composed : controller.compose bridge (.allocate useBundle endpoint initiator
        contents) with ⟨_ | request, next⟩
      · rw [composed] at sent
        cases sent
      · have sameMerge : next.state.merge reply = .ok merged := by
          rw [show next.state = controller.state by rw [kept_of_compose composed]]
          exact merges
        simp only [Exchange.settle, settleAllocation_of_merge sameMerge]
        rfl

end Controller

end ConferenceFocus.Control
