import ConferenceFocus.Proofs.CallRequests

/-!
# When a call sends

What a call asks for can be read off the call and the conference held.  It is
sent exactly if a bridge has been chosen and it is not nothing.  The request
takes the next number, and a call without a request takes none.
-/

namespace ConferenceFocus.Control

open Colibri

namespace Controller

/-- What a call asks of the bridge in the state the controller is in.  Whether
there is a bridge to ask is another matter. -/
def intent? (controller : Controller) (call : Call) : Option Intent :=
  match call with
  | .expireConference => controller.state.id.map fun _ => .expire controller.state
  | .mute channels _ | .hold channels _ =>
      if missingMedia? channels = none then call.intent? else none
  | _ => call.intent?

variable {controller next : Controller} {bridge : BridgeAddress} {intent : Intent}
  {request : Request}

theorem compose_eq_none_iff :
    (controller.compose bridge intent).1 = none ↔ intent.entries controller.settings = [] := by
  rw [compose_eq]
  split
  · next nothing => exact iff_of_true rfl nothing
  · next asks => exact iff_of_false nofun asks

theorem lastSeq_of_compose
    (composed : controller.compose bridge intent = (some request, next)) :
    request.seq = controller.lastSeq + 1 ∧ next.lastSeq = request.seq := by
  rw [compose_eq] at composed
  split at composed <;> cases composed
  exact ⟨rfl, rfl⟩

/-- How an exchange meets what is wanted of the bridge: nothing can be composed,
and then no request is handed over and no number is taken; or a request is
composed and handed over, and its number is the last one then. -/
inductive Conveys (controller : Controller) (wanted : Option Intent)
    (exchange : Exchange Turn) : Prop where
  | withheld
      (idle : ∀ intent ∈ wanted, ∀ bridge ∈ controller.bridge,
        (controller.compose bridge intent).1 = none)
      (unsent : exchange.request? = none)
      (kept : ∀ delivery refusal,
        (exchange.settle delivery refusal).controller.lastSeq = controller.lastSeq)
  | sent (bridge : BridgeAddress) (intent : Intent) (request : Request) (next : Controller)
      (asked : wanted = some intent) (chosen : controller.bridge = some bridge)
      (composed : controller.compose bridge intent = (some request, next))
      (sent : exchange.request? = some request)
      (taken : ∀ delivery refusal,
        (exchange.settle delivery refusal).controller.lastSeq = request.seq)

theorem conveys_finished {turn : Turn} (kept : turn.controller.lastSeq = controller.lastSeq) :
    Conveys controller none (.finished turn) :=
  .withheld (by simp) rfl fun _ _ => kept

theorem conveys_dispatch (controller : Controller) (operation : Operation) (intent : Intent) :
    Conveys controller (some intent) (controller.dispatch operation intent) := by
  unfold dispatch
  cases chosen : controller.bridge with
  | none => exact .withheld (by simp [chosen]) rfl fun _ _ => rfl
  | some bridge =>
      dsimp only
      rcases composed : controller.compose bridge intent with ⟨_ | request, next⟩
      · obtain rfl := eq_of_compose_eq_none composed
        refine .withheld ?_ rfl fun _ _ => rfl
        simp [chosen, composed]
      · exact .sent bridge intent request next rfl chosen composed rfl
          fun _ _ => (lastSeq_of_compose composed).2

theorem conveys_setInactive (controller : Controller) (operation : Operation)
    (channels : Conference) (inactive : Bool) :
    Conveys controller
      (if missingMedia? channels = none then
        some (.setDirection (if inactive then .inactive else .sendrecv) channels) else none)
      (controller.setInactive operation channels inactive) := by
  unfold setInactive
  cases missing : missingMedia? channels with
  | some media => exact conveys_finished rfl
  | none =>
      dsimp only
      rw [if_pos rfl]
      by_cases absent : controller.bridge.isNone = true
      · rw [if_pos absent]
        refine .withheld ?_ rfl fun _ _ => rfl
        simp [Option.isNone_iff_eq_none.mp absent]
      · rw [if_neg absent]
        exact conveys_dispatch controller operation _

theorem conveys_updateSources (controller : Controller) (streams : Streams)
    (channels : Conference) :
    Conveys controller (some (.replaceStreams streams channels))
      (controller.updateSources streams channels) := by
  unfold updateSources
  cases chosen : controller.bridge with
  | none => exact .withheld (by simp [chosen]) rfl fun _ _ => rfl
  | some bridge =>
      dsimp only
      rcases composed : controller.compose bridge (.replaceStreams streams channels) with
        ⟨_ | request, next⟩
      · obtain rfl := eq_of_compose_eq_none composed
        refine .withheld ?_ rfl fun _ _ => rfl
        simp [chosen, composed]
      · exact .sent bridge _ request next rfl chosen composed rfl
          fun _ _ => (lastSeq_of_compose composed).2

theorem lastSeq_finishAllocation (controller : Controller) (bridge : BridgeAddress)
    (contents : List MediaContent) (delivery : Delivery) :
    (controller.finishAllocation
      (controller.settleAllocation bridge contents delivery)).controller.lastSeq =
        controller.lastSeq := by
  unfold settleAllocation
  cases controller.allocationReply bridge delivery with
  | error cause => rfl
  | ok reply =>
      cases merges : controller.state.merge reply <;>
        simp [merges, bind, Except.bind, pure, Except.pure, finishAllocation, confirm]

theorem conveys_allocate (controller : Controller) (useBundle : Bool) (endpoint : EndpointId)
    (initiator : Bool) (contents : List MediaContent) :
    Conveys controller (some (.allocate useBundle endpoint initiator contents))
      (controller.allocate useBundle endpoint initiator contents) := by
  unfold allocate
  cases chosen : controller.bridge with
  | none => exact .withheld (by simp [chosen]) rfl fun _ _ => rfl
  | some bridge =>
      dsimp only
      rcases composed : controller.compose bridge (.allocate useBundle endpoint initiator
        contents) with ⟨_ | request, next⟩
      · obtain rfl := eq_of_compose_eq_none composed
        refine .withheld ?_ rfl fun _ _ => rfl
        simp [chosen, composed]
      · exact .sent bridge _ request next rfl chosen composed rfl fun delivery _ =>
          (lastSeq_finishAllocation next bridge contents delivery).trans
            (lastSeq_of_compose composed).2

theorem conveys_expireConference (controller : Controller) :
    Conveys controller (controller.intent? .expireConference) controller.expireConference := by
  unfold expireConference intent?
  cases controller.state.id with
  | none => exact conveys_finished rfl
  | some conference =>
      -- Forgetting the conference afterwards does not touch the numbers.
      cases controller.conveys_dispatch .expireConference (.expire controller.state) with
      | withheld idle unsent kept =>
          refine .withheld idle (by simpa using unsent) fun delivery refusal => ?_
          simpa [forget, confirm] using kept delivery refusal
      | sent bridge intent request next asked chosen composed sent taken =>
          refine .sent bridge intent request next asked chosen composed (by simpa using sent)
            fun delivery refusal => ?_
          simpa [forget, confirm] using taken delivery refusal

theorem conveys_handle (controller : Controller) (call : Call) :
    Conveys controller (controller.intent? call) (controller.handle call) := by
  cases call with
  | setBridge address =>
      refine conveys_finished ?_
      rcases controller.setBridge_cases address with same | ⟨_, _, tied⟩ | ⟨_, chosen⟩
      · rw [same]
      · rw [tied]
      · rw [chosen]
  | setName name => exact conveys_finished rfl
  | takeJustAllocated => exact conveys_finished rfl
  | allocate useBundle endpoint initiator contents => exact conveys_allocate ..
  | expireConference => exact conveys_expireConference controller
  | updateSources streams channels => exact conveys_updateSources ..
  | mute channels on => exact conveys_setInactive ..
  | hold channels on => exact conveys_setInactive ..
  | expireChannels channels => exact conveys_dispatch ..
  | updateCodecs descriptions channels => exact conveys_dispatch ..
  | updateTransports initiator transports channels => exact conveys_dispatch ..
  | updateBundle initiator transport channels => exact conveys_dispatch ..

/-- A call hands a request over exactly if a bridge has been chosen and what the
call asks of it is not nothing. -/
theorem isSome_request?_iff (controller : Controller) (call : Call) :
    (controller.handle call).request?.isSome = true ↔
      controller.bridge.isSome = true ∧
        ∃ intent ∈ controller.intent? call, intent.entries controller.settings ≠ [] := by
  cases controller.conveys_handle call with
  | withheld idle unsent kept =>
      rw [unsent]
      refine iff_of_false (by simp) ?_
      rintro ⟨hosted, intent, wanted, asks⟩
      obtain ⟨bridge, chosen⟩ := Option.isSome_iff_exists.mp hosted
      exact asks (compose_eq_none_iff.mp (idle intent wanted bridge chosen))
  | sent bridge intent request next asked chosen composed sent taken =>
      rw [sent]
      refine iff_of_true rfl ⟨by rw [chosen]; rfl, intent, asked, fun nothing => ?_⟩
      have withheld : (controller.compose bridge intent).1 = none :=
        compose_eq_none_iff.mpr nothing
      rw [composed] at withheld
      cases withheld

end Controller

end ConferenceFocus.Control
