import ConferenceFocus.Proofs.ConferenceIdentity
import ConferenceFocus.Proofs.DirectionChanges
import ConferenceFocus.Telemetry.Registry

/-!
# How requests are counted

Calls that report how they ended are counted each time, and calls that do not are counted
for their requests and for want of a bridge.  What is counted for a call can be said from
outside: by what the call answered, whether it handed a request over, and whether that was
refused.
-/

namespace ConferenceFocus

namespace Registry

theorem lookup_filter_ne (requests : List (RequestLabels × Nat))
    (labels other : RequestLabels) : (requests.filter (·.1 ≠ labels)).lookup other =
      if labels = other then none else requests.lookup other := by
  induction requests with
  | nil => split <;> rfl
  | cons first rest ih =>
      by_cases named : first.1 = labels
      · rw [List.filter_cons_of_neg (by simpa using named), ih]
        by_cases same : labels = other
        · rw [if_pos same, if_pos same]
        · have passed : (other == first.1) = false := by
            rw [named]
            exact beq_false_of_ne (Ne.symm same)
          rw [if_neg same, if_neg same, List.lookup_cons, passed]
      · rw [List.filter_cons_of_pos (by simpa using named), List.lookup_cons, ih,
          List.lookup_cons]
        by_cases same : labels = other
        · have passed : (other == first.1) = false := by
            rw [← same]
            exact beq_false_of_ne (Ne.symm named)
          simp only [passed, if_pos same]
        · rw [if_neg same, if_neg same]

theorem requestCount_countRequest (registry : Registry) (labels other : RequestLabels) :
    (registry.countRequest labels).requestCount other =
      registry.requestCount other + if labels = other then 1 else 0 := by
  rw [requestCount, countRequest, List.lookup_append, lookup_filter_ne]
  by_cases same : labels = other
  · subst same
    simp [requestCount]
  · have passed : (other == labels) = false := beq_false_of_ne (Ne.symm same)
    rw [if_neg same, if_neg same, List.lookup_cons, passed]
    simp [requestCount]

end Registry

namespace Colibri.FailureKind

theorem label_injective : Function.Injective label := by
  intro left right
  cases left <;> cases right <;> decide

theorem label_ne_success (kind : FailureKind) : kind.label ≠ "success" := by
  cases kind <;> decide

end Colibri.FailureKind

namespace Control

open Colibri

namespace Measurement

/-- The counter that a measurement adds one to. -/
def counter? : Measurement → Option RequestLabels
  | request operation outcome => some ⟨operation.label, outcome.label⟩
  | allocationTime => none

/-- Takes a measurement down, with the time that an allocation took. -/
def recordIn (took : Duration) (registry : Registry) : Measurement → Registry
  | request operation outcome => registry.countRequest ⟨operation.label, outcome.label⟩
  | allocationTime => registry.recordAllocation took

end Measurement

namespace Turn

/-- The counters that a turn adds one to. -/
def counted (turn : Turn) : List RequestLabels :=
  turn.measurements.filterMap (·.counter?)

def recordIn (took : Duration) (registry : Registry) (turn : Turn) : Registry :=
  turn.measurements.foldl (Measurement.recordIn took) registry

theorem requestCount_recordIn (took : Duration) (registry : Registry) (turn : Turn)
    (labels : RequestLabels) : (turn.recordIn took registry).requestCount labels =
      registry.requestCount labels + turn.counted.count labels := by
  unfold recordIn counted
  induction turn.measurements generalizing registry with
  | nil => rfl
  | cons first rest ih =>
      rw [List.foldl_cons, ih]
      cases first with
      | allocationTime => rfl
      | request operation outcome =>
          have split : (Measurement.request operation outcome :: rest).filterMap (·.counter?) =
              ⟨operation.label, outcome.label⟩ :: rest.filterMap (·.counter?) := rfl
          rw [split, List.count_cons, Measurement.recordIn,
            Registry.requestCount_countRequest]
          simp only [beq_iff_eq]
          omega

end Turn

/-- The failure that an answer reports. -/
def Answer.failure? : Answer → Option Failure
  | failed cause => some cause
  | done | allocated _ | flag _ => none

def Delivery.refusal? : Delivery → Option Failure
  | refused cause => some cause
  | answered _ | silence => none

namespace Exchange

/-- What the request of an exchange was refused with, if there was one and it was. -/
def refusal? {α : Type} (delivery : Delivery) (refusal : Option Failure) :
    Exchange α → Option Failure
  | finished _ => none
  | ask _ _ => delivery.refusal?
  | post _ _ => refusal

/-- What went wrong with a call: what it reports, or else why its request was refused. -/
def failure? (delivery : Delivery) (refusal : Option Failure) (exchange : Exchange Turn) :
    Option Failure :=
  (exchange.settle delivery refusal).answer.failure?.or (exchange.refusal? delivery refusal)

end Exchange

/-- The counter for what an operation came to. -/
def counterOf (operation : Operation) (failure? : Option Failure) : RequestLabels :=
  ⟨operation.label, failure?.elim "success" (·.kind.label)⟩

theorem Operation.label_injective : Function.Injective Operation.label := by
  intro left right
  cases left <;> cases right <;> decide

/-- Counters are told apart by the operation and by the kind of failure, if there was any. -/
theorem counterOf_eq_iff {left right : Operation} {leftFailure? rightFailure? : Option Failure} :
    counterOf left leftFailure? = counterOf right rightFailure? ↔
      left = right ∧ leftFailure?.map (·.kind) = rightFailure?.map (·.kind) := by
  rw [counterOf, counterOf, RequestLabels.mk.injEq, Operation.label_injective.eq_iff]
  refine and_congr_right fun _ => ?_
  cases leftFailure? with
  | none =>
      cases rightFailure? with
      | none => exact iff_of_true rfl rfl
      | some cause => exact iff_of_false (FailureKind.label_ne_success _).symm nofun
  | some cause =>
      cases rightFailure? with
      | none => exact iff_of_false (FailureKind.label_ne_success _) nofun
      | some other =>
          rw [Option.map_some, Option.map_some, Option.some_inj]
          exact FailureKind.label_injective.eq_iff

namespace Event

def exchange (event : Event) : Exchange Turn :=
  event.before.handle event.moment.call

def failure? (event : Event) : Option Failure :=
  event.exchange.failure? event.moment.delivery event.moment.refusal

/-- The counters of a call that counts its request, if there is one. -/
def owedForRequest (event : Event) (operation : Operation) : List RequestLabels :=
  if event.exchange.request?.isSome then
    [counterOf operation (event.exchange.refusal? event.moment.delivery event.moment.refusal)]
  else []

/-- The counters of a call that counts the want of a bridge as well. -/
def owedForBridge (event : Event) (operation : Operation) : List RequestLabels :=
  if event.before.bridge = none then [⟨operation.label, "illegal_state"⟩]
  else event.owedForRequest operation

/-- The counters that a call has to add one to, seen from outside. -/
def owed (event : Event) : List RequestLabels :=
  match event.moment.call with
  | .setBridge _ | .setName _ | .takeJustAllocated => []
  | .allocate .. => [counterOf .allocateChannels event.failure?]
  | .updateSources .. => [counterOf .updateSources event.failure?]
  | .mute .. => [counterOf .muteParticipant event.failure?]
  | .hold .. => [counterOf .holdParticipant event.failure?]
  | .expireChannels _ => event.owedForBridge .expireChannels
  | .updateCodecs .. => event.owedForBridge .updateCodecs
  | .updateTransports .. => event.owedForBridge .updateTransports
  | .updateBundle .. => event.owedForBridge .updateBundle
  | .expireConference => event.owedForRequest .expireConference

end Event

theorem counted_single (controller : Controller) (answer : Answer) (operation : Operation)
    (failure? : Option Failure) :
    Turn.counted
        { controller, answer, measurements := [.request operation (.ofFailure? failure?)] } =
      [counterOf operation failure?] := by
  cases failure? <;> rfl

namespace Controller

section Shapes

variable (controller : Controller)

theorem dispatch_cases (operation : Operation) (intent : Intent) :
    (controller.bridge = none ∧ controller.dispatch operation intent =
        .finished { controller, measurements := [.request operation (.failure .illegalState)] }) ∨
      (controller.bridge ≠ none ∧
        controller.dispatch operation intent = .finished { controller }) ∨
      (controller.bridge ≠ none ∧ ∃ request next,
        controller.dispatch operation intent = .post request fun refusal =>
          { controller := next, measurements := [.request operation (.ofFailure? refusal)] }) := by
  unfold dispatch
  cases controller.bridge with
  | none => exact .inl ⟨rfl, rfl⟩
  | some bridge =>
      dsimp only
      split
      · next withheld =>
          exact .inr (.inl ⟨Option.some_ne_none _, by rw [eq_of_compose_eq_none withheld]⟩)
      · exact .inr (.inr ⟨Option.some_ne_none _, _, _, rfl⟩)

/-- Once it is not refused, a change of direction has something to ask for. -/
theorem setInactive_cases (operation : Operation) (channels : Conference) (inactive : Bool) :
    (∃ cause, controller.setInactive operation channels inactive =
        .finished
          { controller, answer := .failed cause,
            measurements := [.request operation (.failure cause.kind)] }) ∨
      ∃ request next, controller.setInactive operation channels inactive =
        .post request fun refusal =>
          { controller := next, measurements := [.request operation (.ofFailure? refusal)] } := by
  unfold setInactive
  cases missing : missingMedia? channels with
  | some media => exact .inl ⟨_, rfl⟩
  | none =>
      cases chosen : controller.bridge with
      | none => exact .inl ⟨_, rfl⟩
      | some bridge =>
          refine .inr ?_
          have complete := missingMedia?_eq channels ▸ missing
          simp only [Option.isNone_some, Bool.false_eq_true, if_false, dispatch, chosen]
          split
          · next withheld =>
              exact absurd (congrArg Prod.fst withheld) (compose_setDirection_ne_none complete)
          · exact ⟨_, _, rfl⟩

theorem allocate_cases (useBundle : Bool) (endpoint : EndpointId) (initiator : Bool)
    (contents : List MediaContent) :
    (∃ cause, controller.allocate useBundle endpoint initiator contents =
        .finished (controller.finishAllocation (.error cause))) ∨
      ∃ request next bridge, controller.allocate useBundle endpoint initiator contents =
        .ask request fun delivery =>
          finishAllocation next (next.settleAllocation bridge contents delivery) := by
  unfold allocate
  cases controller.bridge with
  | none => exact .inl ⟨_, rfl⟩
  | some bridge =>
      dsimp only
      split
      · next withheld => exact .inl ⟨_, by rw [eq_of_compose_eq_none withheld]⟩
      · exact .inr ⟨_, _, _, rfl⟩

theorem updateSources_cases (streams : Streams) (channels : Conference) :
    (∃ failure?, controller.updateSources streams channels =
        .finished (controller.finishUpdate failure?)) ∨
      ∃ request next bridge, controller.updateSources streams channels =
        .ask request fun delivery =>
          finishUpdate next (next.updateFailure? bridge delivery) := by
  unfold updateSources
  cases controller.bridge with
  | none => exact .inl ⟨_, rfl⟩
  | some bridge =>
      dsimp only
      split
      · next withheld => exact .inl ⟨_, by rw [eq_of_compose_eq_none withheld]⟩
      · exact .inr ⟨_, _, _, rfl⟩

end Shapes

variable {controller : Controller} {delivery : Delivery} {refusal : Option Failure}

theorem counted_finishAllocation (result : Except Failure (Conference × Controller)) :
    (controller.finishAllocation result).counted =
      [counterOf .allocateChannels (controller.finishAllocation result).answer.failure?] := by
  cases result <;> rfl

theorem failure?_finishUpdate (failure? : Option Failure) :
    (controller.finishUpdate failure?).answer.failure? = failure? := by
  cases failure? <;> rfl

/-- An allocation or an update whose request is refused reports the refusal. -/
theorem failure?_of_ask {request : Request} {resume : Delivery → Turn}
    (reports : ∀ cause, (resume (.refused cause)).answer.failure? = some cause) :
    (Exchange.ask request resume).failure? delivery refusal =
      (resume delivery).answer.failure? := by
  cases delivery with
  | refused cause => simp [Exchange.failure?, Exchange.settle, reports]
  | answered reply => exact Option.or_none
  | silence => exact Option.or_none

theorem counted_allocate (useBundle : Bool) (endpoint : EndpointId) (initiator : Bool)
    (contents : List MediaContent) :
    let exchange := controller.allocate useBundle endpoint initiator contents
    (exchange.settle delivery refusal).counted =
      [counterOf .allocateChannels (exchange.failure? delivery refusal)] := by
  intro exchange
  rcases controller.allocate_cases useBundle endpoint initiator contents with
    ⟨cause, ends⟩ | ⟨request, next, bridge, asks⟩
  · rw [show exchange = _ from ends]
    rfl
  · rw [show exchange = _ from asks, failure?_of_ask fun cause => rfl]
    exact counted_finishAllocation _

theorem counted_updateSources (streams : Streams) (channels : Conference) :
    let exchange := controller.updateSources streams channels
    (exchange.settle delivery refusal).counted =
      [counterOf .updateSources (exchange.failure? delivery refusal)] := by
  intro exchange
  rcases controller.updateSources_cases streams channels with
    ⟨failure?, ends⟩ | ⟨request, next, bridge, asks⟩
  · rw [show exchange = _ from ends, Exchange.failure?, Exchange.settle, failure?_finishUpdate,
      Exchange.refusal?, Option.or_none]
    exact counted_single ..
  · rw [show exchange = _ from asks, failure?_of_ask fun cause => rfl, failure?_finishUpdate]
    exact counted_single ..

theorem counted_setInactive (operation : Operation) (channels : Conference) (inactive : Bool) :
    let exchange := controller.setInactive operation channels inactive
    (exchange.settle delivery refusal).counted =
      [counterOf operation (exchange.failure? delivery refusal)] := by
  intro exchange
  rcases controller.setInactive_cases operation channels inactive with
    ⟨cause, ends⟩ | ⟨request, next, posts⟩
  · rw [show exchange = _ from ends]
    rfl
  · rw [show exchange = _ from posts]
    exact counted_single ..

end Controller

namespace Event

open Controller

theorem counted_of_dispatch {event : Event} {operation : Operation} {intent : Intent}
    (dispatches : event.exchange = event.before.dispatch operation intent) :
    event.turn.counted = event.owedForBridge operation := by
  have turned : event.turn = event.exchange.settle event.moment.delivery event.moment.refusal :=
    rfl
  rw [turned, owedForBridge, owedForRequest, dispatches]
  rcases event.before.dispatch_cases operation intent with
    ⟨unhosted, dropped⟩ | ⟨hosted, idle⟩ | ⟨hosted, request, next, posts⟩
  · rw [if_pos unhosted, dropped]
    rfl
  · rw [if_neg hosted, idle]
    rfl
  · rw [if_neg hosted, posts]
    exact counted_single ..

/-- The expiry of a conference never wants for a bridge, as one that is held has been
hosted. -/
theorem counted_expireConference {event : Event} (expiry : event.moment.call = .expireConference)
    (hosted : event.before.state.id.isSome = true → event.before.bridge ≠ none) :
    event.turn.counted = event.owedForRequest .expireConference := by
  obtain ⟨before, ⟨call, delivery, refusal⟩⟩ := event
  obtain rfl : call = .expireConference := expiry
  change (before.expireConference.settle delivery refusal).counted =
    if before.expireConference.request?.isSome then
      [counterOf .expireConference (before.expireConference.refusal? delivery refusal)]
    else []
  cases held : before.state.id with
  | none =>
      have ignored : before.expireConference = .finished { controller := before } := by
        rw [expireConference, held]
      rw [ignored]
      rfl
  | some conference =>
      have expires : before.expireConference =
          (before.dispatch .expireConference (.expire before.state)).map fun turn =>
            { turn with controller := turn.controller.forget } := by
        rw [expireConference, held]
      rw [expires]
      rcases before.dispatch_cases .expireConference (.expire before.state) with
        ⟨unhosted, -⟩ | ⟨-, idle⟩ | ⟨-, request, next, posts⟩
      · exact absurd unhosted (hosted (by rw [held]; rfl))
      · rw [idle]
        rfl
      · rw [posts]
        exact counted_single ..

theorem counted_eq_owed {event : Event}
    (hosted : event.before.state.id.isSome = true → event.before.bridge ≠ none) :
    event.turn.counted = event.owed := by
  obtain ⟨before, ⟨call, delivery, refusal⟩⟩ := event
  cases call with
  | setBridge address =>
      have settled : (Event.mk before ⟨.setBridge address, delivery, refusal⟩).turn =
          before.setBridge address := rfl
      rw [settled]
      rcases before.setBridge_cases address with same | ⟨conference, -, tied⟩ | ⟨-, chosen⟩
      · rw [same]
        rfl
      · rw [tied]
        rfl
      · rw [chosen]
        rfl
  | setName name => rfl
  | takeJustAllocated => rfl
  | allocate useBundle endpoint initiator contents => exact counted_allocate ..
  | updateSources streams channels => exact counted_updateSources ..
  | mute channels on => exact counted_setInactive ..
  | hold channels on => exact counted_setInactive ..
  | expireChannels channels => exact counted_of_dispatch rfl
  | updateCodecs descriptions channels => exact counted_of_dispatch rfl
  | updateTransports initiator transports channels => exact counted_of_dispatch rfl
  | updateBundle initiator transport channels => exact counted_of_dispatch rfl
  | expireConference => exact counted_expireConference rfl hosted

theorem length_owed_of_request? {event : Event}
    (sent : event.exchange.request?.isSome = true) : event.owed.length = 1 := by
  have forRequest (operation : Operation) : (event.owedForRequest operation).length = 1 := by
    rw [owedForRequest, if_pos sent]
    rfl
  have forBridge (operation : Operation) : (event.owedForBridge operation).length = 1 := by
    rw [owedForBridge]
    split
    · rfl
    · exact forRequest operation
  rw [exchange] at sent
  unfold owed
  cases called : event.moment.call with
  | setBridge address =>
      rw [called] at sent
      cases sent
  | setName name =>
      rw [called] at sent
      cases sent
  | takeJustAllocated =>
      rw [called] at sent
      cases sent
  | allocate useBundle endpoint initiator contents => rfl
  | updateSources streams channels => rfl
  | mute channels on => rfl
  | hold channels on => rfl
  | expireConference => exact forRequest _
  | _ => exact forBridge _

end Event

namespace Controller

/-- The registry after a run, with the times that its allocations took. -/
def recordedIn (controller : Controller) (took : Event → Duration) (registry : Registry)
    (moments : List Moment) : Registry :=
  (controller.events moments).foldl
    (fun current event => event.turn.recordIn (took event) current) registry

theorem requestCount_recordedIn (controller : Controller) (took : Event → Duration)
    (registry : Registry) (moments : List Moment) (labels : RequestLabels) :
    (controller.recordedIn took registry moments).requestCount labels =
      registry.requestCount labels +
        ((controller.events moments).flatMap (·.turn.counted)).count labels := by
  unfold recordedIn
  induction controller.events moments generalizing registry with
  | nil => rfl
  | cons event rest ih =>
      rw [List.foldl_cons, ih, Turn.requestCount_recordIn, List.flatMap_cons, List.count_append,
        Nat.add_assoc]

/-- Over any run, each call adds one to the counters it owes and to no other: a call that
reports how it ended to one counter of its operation, with what went wrong, if anything
did; a call that reports nothing to one counter for its request, or else for want of a
bridge; the expiry of a conference to one for its request.  Each request that is handed
over is counted once, and counters are told apart by operation and kind of failure. -/
theorem requests_counted_once (settings : Settings) (moments : List Moment)
    (took : Event → Duration) (registry : Registry) :
    (∀ event ∈ events { settings } moments, event.turn.counted = event.owed ∧
      (event.exchange.request?.isSome = true → event.owed.length = 1)) ∧
      (∀ labels, (recordedIn { settings } took registry moments).requestCount labels =
        registry.requestCount labels +
          ((events { settings } moments).flatMap (·.owed)).count labels) ∧
      ∀ left right leftFailure? rightFailure?,
        counterOf left leftFailure? = counterOf right rightFailure? ↔
          left = right ∧ leftFailure?.map (·.kind) = rightFailure?.map (·.kind) := by
  have counted (event : Event) (met : event ∈ events { settings } moments) :
      event.turn.counted = event.owed := by
    obtain ⟨earlier, -, before⟩ := exists_of_mem_events met
    refine Event.counted_eq_owed fun held => ?_
    rw [before] at held ⊢
    exact Option.isSome_iff_ne_none.mp (hosted_after settings earlier held)
  refine ⟨fun event met => ⟨counted event met, Event.length_owed_of_request?⟩, fun labels => ?_,
    fun _ _ _ _ => counterOf_eq_iff⟩
  rw [requestCount_recordedIn, List.flatMap_congr counted]

open Simulation in
/-- An update without a bridge, a mute whose request is refused, a hold without video,
an expiry of nothing, and an expiry of the conference. -/
theorem requests_counted_once_of_refused_mute :
    let reply : Conference :=
      { id := some ⟨"first"⟩,
        contents :=
          [{ media := .audio, channels := [{ id := some "a" }] },
            { media := .video, channels := [{ id := some "v" }] }] }
    let audio : Conference :=
      { contents := [{ media := .audio, channels := [{ id := some "a" }] }] }
    let muted : Moment := { call := .mute reply true, refusal := some (.notSent "gone") }
    let moments : List Moment :=
      [{ call := .updateSources ∅ reply }, { call := .setBridge ⟨"bridge"⟩ },
        { call := .allocate true ⟨"alice"⟩ true [Sample.audioContent 1, Sample.videoContent 2],
          delivery := .answered (.conference reply) },
        muted, { call := .hold audio true }, { call := .expireChannels {} },
        { call := .expireConference }]
    let owed : List RequestLabels :=
      [⟨"update_sources", "illegal_state"⟩, ⟨"allocate_channels", "success"⟩,
        ⟨"mute_participant", "network_failure"⟩, ⟨"hold_participant", "illegal_state"⟩,
        ⟨"expire_conference", "success"⟩]
    (events {} moments).flatMap (·.owed) = owed ∧
      (∀ labels, (recordedIn {} (fun _ => ⟨0⟩) {} moments).requestCount labels =
        owed.count labels) ∧
      ∃ event ∈ events {} moments, event.moment = muted ∧
        event.exchange.request?.isSome = true ∧ event.turn.answer = .done ∧
        event.turn.counted = [⟨"mute_participant", "network_failure"⟩] ∧
        event.owed.length = 1 := by
  intro reply audio muted moments owed
  obtain ⟨each, totals, _⟩ := requests_counted_once {} moments (fun _ => ⟨0⟩) {}
  have owing : (events {} moments).flatMap (·.owed) = owed := by decide
  refine ⟨owing, fun labels => ?_, ?_⟩
  · rw [totals labels, owing]
    exact Nat.zero_add _
  · let event : Event := ⟨after {} (moments.take 3), muted⟩
    have met : event ∈ events {} moments :=
      List.mem_cons_of_mem _ (List.mem_cons_of_mem _ (List.mem_cons_of_mem _ List.mem_cons_self))
    have sent : event.exchange.request?.isSome = true := by decide
    obtain ⟨counted, once⟩ := each event met
    exact ⟨event, met, rfl, sent, rfl, counted.trans (by decide), once sent⟩

end Controller

end Control

end ConferenceFocus
