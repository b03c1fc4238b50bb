import ConferenceFocus.Proofs.ControllerTurns

/-!
# What calls leave behind

Seen from outside, a call does one of three things to the conference that a
controller holds: it lets it be, forgets it, or takes in the reply to an
allocation.  Only the last hands out a descriptor.
-/

namespace ConferenceFocus.Control

open Colibri

/-- The descriptor that an answer hands out. -/
def Answer.granted? : Answer → Option Conference
  | .allocated channels => some channels
  | .done | .flag _ | .failed _ => none

namespace Controller

variable {controller : Controller} {delivery : Delivery} {refusal : Option Failure}

/-- What a call can do to the conference held and what it can hand out: it lets
the conference be, forgets it, or takes in the reply to an allocation. -/
inductive Outcome (controller : Controller) (call : Call) (delivery : Delivery)
    (turn : Turn) : Prop where
  | stays (sameId : turn.controller.state.id = controller.state.id)
      (sameContents : turn.controller.state.contents = controller.state.contents)
      (chosen : controller.bridge.isSome = true → turn.controller.bridge.isSome = true)
      (nothing : turn.answer.granted? = none)
      (spared : call = .expireConference → controller.state.id = none)
  | forgets (expiry : call = .expireConference) (held : controller.state.id.isSome = true)
      (forgotten : turn.controller.state = {}) (nothing : turn.answer.granted? = none)
  | takes (useBundle : Bool) (endpoint : EndpointId) (initiator : Bool)
      (contents : List MediaContent) (reply merged : Conference)
      (allocation : call = .allocate useBundle endpoint initiator contents)
      (delivered : delivery = .answered (.conference reply))
      (merges : controller.state.merge reply = .ok merged)
      (state : turn.controller.state = merged)
      (chosen : turn.controller.bridge.isSome = true)
      (answer : turn.answer = .allocated (reply.restrictTo contents))

theorem answer_dispatch (operation : Operation) (intent : Intent) :
    ((controller.dispatch operation intent).settle delivery refusal).answer = .done := by
  unfold dispatch
  cases controller.bridge with
  | none => rfl
  | some bridge =>
      dsimp only
      split <;> rfl

theorem granted?_setInactive (operation : Operation) (channels : Conference) (inactive : Bool) :
    ((controller.setInactive operation channels inactive).settle delivery
      refusal).answer.granted? = none := by
  unfold setInactive
  dsimp only
  split
  · rfl
  · split
    · rfl
    · rw [answer_dispatch]
      rfl

theorem granted?_updateSources (streams : Streams) (channels : Conference) :
    ((controller.updateSources streams channels).settle delivery
      refusal).answer.granted? = none := by
  have finished (next : Controller) (failure : Option Failure) :
      (next.finishUpdate failure).answer.granted? = none := by
    cases failure <;> rfl
  unfold updateSources
  cases controller.bridge with
  | none => exact finished _ _
  | some bridge =>
      dsimp only
      split <;> exact finished _ _

theorem outcome_of_kept {call : Call} {turn : Turn} (kept : Kept controller turn.controller)
    (nothing : turn.answer.granted? = none)
    (spared : call = .expireConference → controller.state.id = none) :
    Outcome controller call delivery turn := by
  refine .stays ?_ ?_ ?_ nothing spared <;> rw [kept]
  exact id

theorem outcome_dispatch {call : Call} (operation : Operation) (intent : Intent)
    (spared : call = .expireConference → controller.state.id = none) :
    Outcome controller call delivery
      ((controller.dispatch operation intent).settle delivery refusal) := by
  refine outcome_of_kept (kept_dispatch operation intent) ?_ spared
  rw [answer_dispatch]
  rfl

theorem outcome (controller : Controller) (call : Call) (delivery : Delivery)
    (refusal : Option Failure) :
    Outcome controller call delivery ((controller.handle call).settle delivery refusal) := by
  cases call with
  | setBridge address =>
      have settled : (controller.handle (.setBridge address)).settle delivery refusal =
          controller.setBridge address := rfl
      rw [settled]
      rcases controller.setBridge_cases address with same | ⟨conference, _, tied⟩ | ⟨_, chosen⟩
      · rw [same]
        exact outcome_of_kept (.refl controller) rfl Call.noConfusion
      · rw [tied]
        exact outcome_of_kept (.refl controller) rfl Call.noConfusion
      · rw [chosen]
        exact .stays rfl rfl (fun _ => rfl) rfl Call.noConfusion
  | setName name => exact .stays rfl rfl id rfl Call.noConfusion
  | takeJustAllocated => exact .stays rfl rfl id rfl Call.noConfusion
  | allocate useBundle endpoint initiator contents =>
      cases allocates_settle controller delivery refusal useBundle endpoint initiator
        contents with
      | failed cause answer kept =>
          exact outcome_of_kept kept (by simp [handle, answer, Answer.granted?]) Call.noConfusion
      | merged reply merged hosted merges answer changed =>
          refine .takes useBundle endpoint initiator contents reply merged rfl rfl merges ?_ ?_
            answer
          · rw [handle, changed]
            rfl
          · rw [handle, changed]
            exact hosted
  | expireConference =>
      cases held : controller.state.id with
      | none =>
          have settled : (controller.handle .expireConference).settle delivery refusal =
              { controller } := by
            simp only [handle, expireConference, held]
            rfl
          rw [settled]
          exact outcome_of_kept (.refl controller) rfl fun _ => held
      | some conference =>
          rw [handle, settle_expireConference delivery refusal held]
          refine .forgets rfl (by rw [held]; rfl) rfl ?_
          simp only [answer_dispatch]
          rfl
  | updateSources streams channels =>
      exact outcome_of_kept (kept_updateSources streams channels)
        (granted?_updateSources streams channels) Call.noConfusion
  | mute channels on =>
      exact outcome_of_kept (kept_setInactive _ channels on)
        (granted?_setInactive _ channels on) Call.noConfusion
  | hold channels on =>
      exact outcome_of_kept (kept_setInactive _ channels on)
        (granted?_setInactive _ channels on) Call.noConfusion
  | expireChannels channels => exact outcome_dispatch _ _ Call.noConfusion
  | updateCodecs descriptions channels => exact outcome_dispatch _ _ Call.noConfusion
  | updateTransports initiator transports channels =>
      exact outcome_dispatch _ _ Call.noConfusion
  | updateBundle initiator transport channels => exact outcome_dispatch _ _ Call.noConfusion

end Controller

end ConferenceFocus.Control
