import Mathlib.Data.List.DropRight
import ConferenceFocus.Proofs.CallOutcomes
import ConferenceFocus.Proofs.ConferenceEntries
import ConferenceFocus.Proofs.ConfirmedState

/-!
# The signal that a conference was opened

Any number of callers may share a controller.  A call holds the lock of the
controller from its start to its end, also while it waits for the bridge.  The
signal that a conference was opened stands outside the lock: it may be read, and
is then cleared, at any moment, also while a call runs.  Whatever the order of
all this, a reader is told that a conference was opened exactly if one was opened
since the reading before.
-/

namespace ConferenceFocus.Control

open Colibri

def Call.readsSignal : Call → Bool
  | .takeJustAllocated => true
  | _ => false

namespace Controller

/-- The controller with the signal set to this value. -/
def signalling (controller : Controller) (raised : Bool) : Controller :=
  { controller with justAllocated := raised }

/-- A conference is held that was not held before. -/
def opens (before after : Controller) : Bool :=
  before.state.id.isNone && after.state.id.isSome

end Controller

/-- The end of a call that finds the signal raised, or not, when it ends: a call
may raise the signal, but neither reads nor clears it. -/
def Turn.raising (turn : Turn) (raised : Bool) : Turn :=
  { turn with
    controller := turn.controller.signalling (raised || turn.controller.justAllocated) }

/-- A controller with many callers. -/
structure SharedController where
  controller : Controller
  /-- The call that holds the lock, and what there is left of it to do. -/
  running : Option (Call × Exchange Turn) := none

inductive Action where
  /-- A caller takes the lock and starts a call; while the lock is taken it waits.
  The signal is read without the lock. -/
  | start (call : Call)
  /-- The call that runs learns what became of its request, ends, and frees the lock. -/
  | finish (delivery : Delivery) (refusal : Option Failure)
  /-- The caller gives up while its call waits, which frees the lock. -/
  | abandon

namespace SharedController

/-- What the lock guards is seen by nobody before the lock is free.  The change of
the conference and the raising of the signal are therefore one step, the last
one of a call. -/
def step (shared : SharedController) : Action → SharedController
  | .start call =>
      if call.readsSignal then
        { shared with controller := shared.controller.takeJustAllocated.controller }
      else match shared.running with
        | some _ => shared
        | none =>
            { shared with running := some (call, (shared.controller.signalling false).handle call) }
  | .finish delivery refusal =>
      match shared.running with
      | none => shared
      | some (_, exchange) =>
          let turn := exchange.settle delivery refusal
          { controller := (turn.raising shared.controller.justAllocated).controller }
  | .abandon =>
      match shared.running with
      | none => shared
      | some (_, exchange) =>
          let lastSeq := (exchange.request?.map (·.seq)).getD shared.controller.lastSeq
          { controller := { shared.controller with lastSeq } }

def after (shared : SharedController) (actions : List Action) : SharedController :=
  actions.foldl step shared

end SharedController

/-- An action together with the state it met. -/
structure Occurrence where
  before : SharedController
  action : Action

namespace Occurrence

def after (occurrence : Occurrence) : SharedController :=
  occurrence.before.step occurrence.action

def reads (occurrence : Occurrence) : Bool :=
  match occurrence.action with
  | .start call => call.readsSignal
  | .finish .. | .abandon => false

/-- What is answered to a caller: to a reader at once, otherwise when the call ends. -/
def answer? (occurrence : Occurrence) : Option Answer :=
  match occurrence.action with
  | .start call =>
      if call.readsSignal then some occurrence.before.controller.takeJustAllocated.answer else none
  | .finish delivery refusal =>
      occurrence.before.running.map fun (_, exchange) =>
        (exchange.settle delivery refusal).answer
  | .abandon => none

def opens (occurrence : Occurrence) : Bool :=
  occurrence.before.controller.opens occurrence.after.controller

/-- A reader is told that a conference was opened. -/
def tells (occurrence : Occurrence) : Bool :=
  occurrence.reads && occurrence.answer? == some (.flag true)

/-- An allocation ends here, and has succeeded. -/
def Allocates (occurrence : Occurrence) : Prop :=
  (∃ delivery refusal, occurrence.action = .finish delivery refusal) ∧
    (∃ useBundle endpoint initiator contents exchange, occurrence.before.running =
      some (.allocate useBundle endpoint initiator contents, exchange)) ∧
    ∃ channels, occurrence.answer? = some (.allocated channels)

end Occurrence

namespace SharedController

def readSignal : Action := .start .takeJustAllocated

/-- What somebody is told who reads the signal now. -/
def toldNow (shared : SharedController) : Option Answer :=
  Occurrence.answer? { before := shared, action := readSignal }

def history (shared : SharedController) : List Action → List Occurrence
  | [] => []
  | action :: rest => { before := shared, action } :: (shared.step action).history rest

theorem history_concat (shared : SharedController) (actions : List Action) (action : Action) :
    shared.history (actions ++ [action]) =
      shared.history actions ++ [{ before := shared.after actions, action }] := by
  induction actions generalizing shared with
  | nil => rfl
  | cons first rest ih =>
      simp only [List.cons_append, history, ih, after, List.foldl_cons]

theorem after_concat (shared : SharedController) (actions : List Action) (action : Action) :
    shared.after (actions ++ [action]) = (shared.after actions).step action := by
  rw [after, after, List.foldl_append, List.foldl_cons, List.foldl_nil]

end SharedController

namespace Controller

section Signal

variable (controller : Controller) (delivery : Delivery) (refusal : Option Failure)

theorem raising_settle_dispatch (operation : Operation) (intent : Intent) :
    (((controller.signalling false).dispatch operation intent).settle delivery refusal).raising
        controller.justAllocated =
      (controller.dispatch operation intent).settle delivery refusal := by
  obtain ⟨settings, bridge, state, version, raised, lastSeq⟩ := controller
  cases bridge with
  | none => simp [dispatch, signalling, Turn.raising, Exchange.settle]
  | some bridge =>
      simp only [dispatch, compose_eq, signalling]
      by_cases idle : intent.entries settings = [] <;>
        simp [idle, signalling, Turn.raising, Exchange.settle]

theorem raising_settle_updateSources (streams : Streams) (channels : Conference) :
    (((controller.signalling false).updateSources streams channels).settle delivery
        refusal).raising controller.justAllocated =
      (controller.updateSources streams channels).settle delivery refusal := by
  obtain ⟨settings, bridge, state, version, raised, lastSeq⟩ := controller
  cases bridge with
  | none => simp [updateSources, finishUpdate, signalling, Turn.raising, Exchange.settle]
  | some bridge =>
      simp only [updateSources, compose_eq, signalling]
      by_cases idle : (Intent.replaceStreams streams channels).entries settings = [] <;>
        simp [idle, finishUpdate, updateFailure?, signalling, Turn.raising, Exchange.settle]

theorem raising_settle_allocate (useBundle : Bool) (endpoint : EndpointId) (initiator : Bool)
    (contents : List MediaContent) :
    (((controller.signalling false).allocate useBundle endpoint initiator contents).settle
        delivery refusal).raising controller.justAllocated =
      (controller.allocate useBundle endpoint initiator contents).settle delivery refusal := by
  obtain ⟨settings, bridge, state, version, raised, lastSeq⟩ := controller
  cases bridge with
  | none => simp [allocate, finishAllocation, signalling, Turn.raising, Exchange.settle]
  | some bridge =>
      simp only [allocate, compose_eq, signalling]
      by_cases idle : (Intent.allocate useBundle endpoint initiator contents).entries settings = []
      · simp [idle, finishAllocation, signalling, Turn.raising, Exchange.settle]
      · -- What the bridge sent back is read the same, be the signal raised or not.
        have sameReply : allocationReply
            { settings, bridge := some bridge, state, version, lastSeq := lastSeq + 1 }
              bridge delivery =
            allocationReply
              { settings, bridge := some bridge, state, version, justAllocated := raised,
                lastSeq := lastSeq + 1 } bridge delivery := by
          unfold allocationReply
          rfl
        simp only [if_neg idle, Exchange.settle, settleAllocation]
        rw [sameReply]
        cases allocationReply _ bridge delivery with
        | error cause => simp [finishAllocation, signalling, Turn.raising, bind, Except.bind]
        | ok reply =>
            cases merges : state.merge reply <;>
              simp [merges, finishAllocation, signalling, Turn.raising, confirm, bind,
                Except.bind, pure, Except.pure]

theorem raising_settle_setInactive (operation : Operation) (channels : Conference)
    (inactive : Bool) :
    (((controller.signalling false).setInactive operation channels inactive).settle
        delivery refusal).raising controller.justAllocated =
      (controller.setInactive operation channels inactive).settle delivery refusal := by
  unfold setInactive
  cases missingMedia? channels with
  | some media => simp [Exchange.settle, Turn.raising, signalling]
  | none =>
      have sameBridge : (controller.signalling false).bridge = controller.bridge := rfl
      dsimp only
      rw [sameBridge]
      by_cases absent : controller.bridge.isNone = true
      · rw [if_pos absent, if_pos absent]
        simp [Exchange.settle, Turn.raising, signalling]
      · rw [if_neg absent, if_neg absent]
        exact controller.raising_settle_dispatch delivery refusal _ _

theorem raising_settle_setBridge (address : BridgeAddress) :
    ((controller.signalling false).setBridge address).raising controller.justAllocated =
      controller.setBridge address := by
  obtain ⟨settings, bridge, state, version, raised, lastSeq⟩ := controller
  by_cases same : bridge = some address
  · simp [setBridge, signalling, Turn.raising, same]
  · cases held : state.id <;> simp [setBridge, signalling, Turn.raising, same, held]

theorem raising_settle_expireConference :
    ((controller.signalling false).expireConference.settle delivery refusal).raising
        controller.justAllocated =
      controller.expireConference.settle delivery refusal := by
  cases held : controller.state.id with
  | none => simp [expireConference, held, signalling, Exchange.settle, Turn.raising]
  | some conference =>
      have sent := controller.raising_settle_dispatch delivery refusal .expireConference
        (.expire controller.state)
      have heldToo : (controller.signalling false).state.id = some conference := held
      rw [settle_expireConference delivery refusal held,
        settle_expireConference delivery refusal heldToo, ← sent]
      rfl

/-- It makes no difference to a call whether the signal is read before it starts
or while it runs. -/
theorem raising_settle (call : Call) (silent : call.readsSignal = false) :
    (((controller.signalling false).handle call).settle delivery refusal).raising
        controller.justAllocated =
      (controller.handle call).settle delivery refusal := by
  cases call with
  | takeJustAllocated => cases silent
  | setName name => simp [handle, setName, confirm, Exchange.settle, Turn.raising, signalling]
  | setBridge address => exact controller.raising_settle_setBridge address
  | allocate useBundle endpoint initiator contents =>
      exact controller.raising_settle_allocate delivery refusal ..
  | expireConference => exact controller.raising_settle_expireConference delivery refusal
  | updateSources streams channels =>
      exact controller.raising_settle_updateSources delivery refusal streams channels
  | mute channels on => exact controller.raising_settle_setInactive delivery refusal ..
  | hold channels on => exact controller.raising_settle_setInactive delivery refusal ..
  | expireChannels channels => exact controller.raising_settle_dispatch delivery refusal ..
  | updateCodecs descriptions channels =>
      exact controller.raising_settle_dispatch delivery refusal ..
  | updateTransports initiator transports channels =>
      exact controller.raising_settle_dispatch delivery refusal ..
  | updateBundle initiator transport channels =>
      exact controller.raising_settle_dispatch delivery refusal ..

end Signal

section Opening

variable {controller : Controller}

theorem opens_of_same_id {next : Controller} (sameId : next.state.id = controller.state.id) :
    controller.opens next = false := by
  rw [opens, sameId]
  cases controller.state.id <;> rfl

theorem signal_of_same_id {next : Controller} (sameId : next.state.id = controller.state.id)
    (sameSignal : next.justAllocated = controller.justAllocated) :
    next.justAllocated = (controller.justAllocated || controller.opens next) := by
  rw [opens_of_same_id sameId, Bool.or_false, sameSignal]

theorem signal_of_kept {next : Controller} (kept : Kept controller next) :
    next.justAllocated = (controller.justAllocated || controller.opens next) := by
  apply signal_of_same_id <;> rw [kept]

/-- A call raises the signal exactly if it opens a conference. -/
theorem signal_turn (moment : Moment) (silent : moment.call.readsSignal = false) :
    (controller.turn moment).controller.justAllocated =
      (controller.justAllocated || controller.opens (controller.turn moment).controller) := by
  obtain ⟨call, delivery, refusal⟩ := moment
  cases call with
  | takeJustAllocated => cases silent
  | setName name => exact signal_of_same_id rfl rfl
  | setBridge address =>
      have settled : controller.turn ⟨.setBridge address, delivery, refusal⟩ =
          controller.setBridge address := rfl
      rw [settled]
      rcases controller.setBridge_cases address with same | ⟨conference, _, tied⟩ | ⟨_, chosen⟩
      · rw [same]
        exact signal_of_kept (.refl controller)
      · rw [tied]
        exact signal_of_kept (.refl controller)
      · rw [chosen]
        exact signal_of_same_id rfl rfl
  | allocate useBundle endpoint initiator contents =>
      cases allocates_settle controller delivery refusal useBundle endpoint initiator
        contents with
      | failed cause answer kept => exact signal_of_kept kept
      | merged reply merged hosted merges answer changed =>
          obtain ⟨id, _, absorbed⟩ := Conference.absorb_of_merge merges
          rw [turn, handle, changed, absorbed]
          simp [opens, confirm, Conference.absorb]
  | expireConference =>
      cases held : controller.state.id with
      | none => exact signal_of_kept (controller.kept_of_spares ⟨_, delivery, refusal⟩ held)
      | some conference =>
          have kept := @kept_dispatch controller delivery refusal .expireConference
            (.expire controller.state)
          rw [turn, handle, settle_expireConference delivery refusal held]
          simp only [opens, held, Option.isNone_some, Bool.false_and, Bool.or_false, forget,
            confirm]
          rw [kept]
  | _ => exact signal_of_kept (controller.kept_of_spares ⟨_, delivery, refusal⟩ trivial)

theorem allocates_of_opens {moment : Moment}
    (opened : controller.opens (controller.turn moment).controller = true) :
    (∃ useBundle endpoint initiator contents,
        moment.call = .allocate useBundle endpoint initiator contents) ∧
      ∃ channels, (controller.turn moment).answer = .allocated channels := by
  cases controller.outcome moment.call moment.delivery moment.refusal with
  | stays sameId =>
      rw [turn, opens_of_same_id sameId] at opened
      cases opened
  | forgets expiry held forgotten =>
      rw [opens, turn, forgotten] at opened
      simp at opened
  | takes useBundle endpoint initiator contents reply merged allocation _ _ _ _ answer =>
      exact ⟨⟨useBundle, endpoint, initiator, contents, allocation⟩, _, answer⟩

end Opening

end Controller

namespace SharedController

/-- What is left of the call that runs is what it would do if it were started now;
only the signal may have been read in the meantime. -/
def Locked (shared : SharedController) : Prop :=
  ∀ running ∈ shared.running, running.1.readsSignal = false ∧
    running.2 = (shared.controller.signalling false).handle running.1

theorem locked_step {shared : SharedController} (locked : shared.Locked) (action : Action) :
    (shared.step action).Locked := by
  cases action with
  | start call =>
      cases reading : call.readsSignal with
      | true =>
          simp only [step, reading, if_true]
          exact locked
      | false =>
          cases waiting : shared.running with
          | some running =>
              simp only [step, reading, waiting]
              exact locked
          | none =>
              simp only [step, reading, waiting]
              intro running taken
              cases taken
              exact ⟨reading, rfl⟩
  | finish delivery refusal =>
      cases waiting : shared.running with
      | none =>
          simp only [step, waiting]
          exact locked
      | some running =>
          simp only [step, waiting]
          intro other taken
          cases taken
  | abandon =>
      cases waiting : shared.running with
      | none =>
          simp only [step, waiting]
          exact locked
      | some running =>
          simp only [step, waiting]
          intro other taken
          cases taken

theorem locked_after (settings : Settings) (actions : List Action) :
    (after { controller := { settings } } actions).Locked := by
  induction actions using List.reverseRecOn with
  | nil =>
      intro running taken
      cases taken
  | append_singleton actions action ih =>
      rw [after_concat]
      exact locked_step ih action

variable {shared : SharedController}

/-- A call takes effect where it ends, as if it ran there from start to end. -/
theorem finish_eq_turn (locked : shared.Locked) {call : Call} {exchange : Exchange Turn}
    (running : shared.running = some (call, exchange)) (delivery : Delivery)
    (refusal : Option Failure) :
    let turn := shared.controller.turn { call, delivery, refusal }
    call.readsSignal = false ∧
      (shared.step (.finish delivery refusal)).controller = turn.controller ∧
      (Occurrence.mk shared (.finish delivery refusal)).answer? = some turn.answer := by
  obtain ⟨silent, remaining⟩ := locked (call, exchange) running
  have settled := shared.controller.raising_settle delivery refusal call silent
  dsimp only at remaining
  rw [← remaining] at settled
  refine ⟨silent, ?_, ?_⟩
  · simp only [step, running]
    exact congrArg Turn.controller settled
  · simp only [Occurrence.answer?, running, Option.map_some, Option.some_inj]
    have sameAnswer := congrArg Turn.answer settled
    exact sameAnswer

theorem locked_of_mem_history {shared : SharedController} (locked : shared.Locked)
    {actions : List Action} :
    ∀ occurrence ∈ shared.history actions, occurrence.before.Locked := by
  induction actions generalizing shared with
  | nil =>
      intro occurrence listed
      cases listed
  | cons action rest ih =>
      exact List.forall_mem_cons.mpr ⟨locked, ih (locked_step locked action)⟩

end SharedController

namespace Occurrence

/-- What an action comes to: the signal is read, a call takes effect, or nothing
happens but that a request may have taken its number. -/
inductive Effect (occurrence : Occurrence) : Prop where
  | reads (reading : occurrence.reads = true)
      (cleared : occurrence.after.controller =
        occurrence.before.controller.takeJustAllocated.controller)
      (answer : occurrence.answer? =
        some (.flag occurrence.before.controller.justAllocated))
  | ends (call : Call) (exchange : Exchange Turn) (delivery : Delivery)
      (refusal : Option Failure) (silent : call.readsSignal = false)
      (action : occurrence.action = .finish delivery refusal)
      (running : occurrence.before.running = some (call, exchange))
      (changed : occurrence.after.controller =
        (occurrence.before.controller.turn ⟨call, delivery, refusal⟩).controller)
      (answer : occurrence.answer? =
        some (occurrence.before.controller.turn ⟨call, delivery, refusal⟩).answer)
  | passes (unread : occurrence.reads = false)
      (kept : Controller.Kept occurrence.before.controller occurrence.after.controller)

variable {occurrence : Occurrence}

theorem effect (locked : occurrence.before.Locked) : occurrence.Effect := by
  obtain ⟨shared, action⟩ := occurrence
  cases action with
  | start call =>
      cases reading : call.readsSignal with
      | true =>
          refine .reads reading ?_ ?_
          · simp only [after, SharedController.step, reading, if_true]
          · simp only [answer?, reading, if_true]
            rfl
      | false =>
          refine .passes reading ?_
          cases waiting : shared.running <;>
            simp only [after, SharedController.step, reading, waiting] <;>
            exact .refl shared.controller
  | finish delivery refusal =>
      cases waiting : shared.running with
      | none =>
          refine .passes rfl ?_
          simp only [after, SharedController.step, waiting]
          exact .refl shared.controller
      | some running =>
          obtain ⟨call, exchange⟩ := running
          obtain ⟨silent, changed, answer⟩ :=
            SharedController.finish_eq_turn locked waiting delivery refusal
          exact .ends call exchange delivery refusal silent rfl waiting changed answer
  | abandon =>
      refine .passes rfl ?_
      cases waiting : shared.running <;> simp only [after, SharedController.step, waiting]
      · exact .refl shared.controller
      · rfl

theorem reads_of_finish {delivery : Delivery} {refusal : Option Failure}
    (action : occurrence.action = .finish delivery refusal) : occurrence.reads = false := by
  rw [reads, action]

/-- Reading lowers the signal, opening a conference raises it, and nothing else
touches it. -/
theorem signal_after (locked : occurrence.before.Locked) :
    occurrence.after.controller.justAllocated =
      (!occurrence.reads && (occurrence.before.controller.justAllocated || occurrence.opens)) := by
  cases occurrence.effect locked with
  | reads reading cleared =>
      rw [cleared, reading]
      rfl
  | ends call exchange delivery refusal silent action running changed =>
      rw [reads_of_finish action, opens, changed]
      exact Controller.signal_turn ⟨call, delivery, refusal⟩ silent
  | passes unread kept =>
      rw [unread]
      exact Controller.signal_of_kept kept

theorem opens_of_reads (reading : occurrence.reads = true) (locked : occurrence.before.Locked) :
    occurrence.opens = false := by
  cases occurrence.effect locked with
  | reads _ cleared =>
      rw [opens, cleared]
      exact Controller.opens_of_same_id rfl
  | ends _ _ _ _ _ action =>
      rw [reads_of_finish action] at reading
      cases reading
  | passes unread =>
      rw [unread] at reading
      cases reading

theorem allocates_of_opens (locked : occurrence.before.Locked)
    (opened : occurrence.opens = true) : occurrence.Allocates := by
  cases occurrence.effect locked with
  | reads reading =>
      rw [opens_of_reads reading locked] at opened
      cases opened
  | ends call exchange delivery refusal silent action running changed answer =>
      rw [opens, changed] at opened
      obtain ⟨⟨useBundle, endpoint, initiator, contents, allocation⟩, channels, granted⟩ :=
        Controller.allocates_of_opens opened
      dsimp only at allocation
      rw [allocation] at running
      exact ⟨⟨delivery, refusal, action⟩, ⟨_, _, _, _, _, running⟩, channels,
        answer.trans (congrArg some granted)⟩
  | passes unread kept =>
      have same : occurrence.after.controller.state = occurrence.before.controller.state := by
        rw [kept]
      rw [opens, Controller.opens_of_same_id (congrArg (·.id) same)] at opened
      cases opened

/-- What is told now, or may be told later, was signalled before or is opened now. -/
theorem tells_add_signal_le (locked : occurrence.before.Locked) :
    occurrence.tells.toNat + occurrence.after.controller.justAllocated.toNat ≤
      occurrence.before.controller.justAllocated.toNat + occurrence.opens.toNat := by
  have told : occurrence.tells =
      (occurrence.reads && occurrence.before.controller.justAllocated) := by
    cases occurrence.effect locked with
    | reads reading _ answer =>
        rw [tells, reading, answer]
        cases occurrence.before.controller.justAllocated <;> rfl
    | ends _ _ _ _ _ action =>
        rw [tells, reads_of_finish action, Bool.false_and, Bool.false_and]
    | passes unread => rw [tells, unread, Bool.false_and, Bool.false_and]
  rw [told, signal_after locked]
  cases occurrence.reads <;> cases occurrence.before.controller.justAllocated <;>
    cases occurrence.opens <;> decide

end Occurrence

namespace SharedController

/-- The signal is up exactly if a conference was opened since it was last read. -/
theorem signal_after (settings : Settings) (actions : List Action) :
    let start : SharedController := { controller := { settings } }
    (start.after actions).controller.justAllocated =
      ((start.history actions).rtakeWhile (!·.reads)).any (·.opens) := by
  intro start
  induction actions using List.reverseRecOn with
  | nil => rfl
  | append_singleton actions action ih =>
      let last : Occurrence := { before := start.after actions, action }
      have step := last.signal_after (locked_after settings actions)
      rw [after_concat, history_concat]
      refine step.trans ?_
      cases reading : last.reads with
      | true =>
          rw [List.rtakeWhile_concat_neg _ _ _ (by simpa using reading)]
          rfl
      | false =>
          rw [List.rtakeWhile_concat_pos _ _ _ (by simpa using reading), List.any_append, ← ih,
            List.any_cons, List.any_nil, Bool.or_false]
          rfl

/-- A signal that is up was up before, or a conference was opened since. -/
theorem opened_of_signal {shared : SharedController} (locked : shared.Locked)
    {actions : List Action} (raised : (shared.after actions).controller.justAllocated = true) :
    shared.controller.justAllocated = true ∨
      ∃ occurrence ∈ shared.history actions, occurrence.opens = true := by
  induction actions generalizing shared with
  | nil => exact .inl raised
  | cons action rest ih =>
      let first : Occurrence := { before := shared, action }
      rcases ih (locked_step locked action) raised with early | ⟨occurrence, listed, opened⟩
      · have step := first.signal_after locked
        rw [show first.after = shared.step action from rfl, early] at step
        have either := (Bool.and_eq_true _ _ ▸ step.symm).2
        rcases Bool.or_eq_true _ _ ▸ either with before | now
        · exact .inl before
        · exact .inr ⟨first, List.mem_cons_self, now⟩
      · exact .inr ⟨occurrence, List.mem_cons_of_mem _ listed, opened⟩

/-- What has been told, and what may still be told, has been opened. -/
theorem tells_le_opens (settings : Settings) (actions : List Action) :
    let start : SharedController := { controller := { settings } }
    (start.history actions).countP (·.tells) +
        (start.after actions).controller.justAllocated.toNat ≤
      (start.history actions).countP (·.opens) := by
  intro start
  induction actions using List.reverseRecOn with
  | nil => exact Nat.le_refl 0
  | append_singleton actions action ih =>
      let last : Occurrence := { before := start.after actions, action }
      have step := last.tells_add_signal_le (locked_after settings actions)
      have counted (holds : Bool) : (if holds = true then 1 else 0) = holds.toNat := by
        cases holds <;> rfl
      rw [after_concat, history_concat, List.countP_append, List.countP_append,
        List.countP_singleton, List.countP_singleton, counted, counted]
      simp only [last, Occurrence.after] at step
      omega

/-- Whoever reads the signal is told that a conference was opened exactly if one was
opened since it was last read.  Only an allocation that succeeds opens one, and
nothing else puts the signal up.  So whoever reads next is told of nothing that was
opened before, and openings are told of at most once. -/
theorem signal_tells_openings (settings : Settings) (actions : List Action) :
    let start : SharedController := { controller := { settings } }
    let shared := start.after actions
    let history := start.history actions
    shared.toldNow = some (.flag ((history.rtakeWhile (!·.reads)).any (·.opens))) ∧
      (∀ occurrence ∈ history, occurrence.opens = true → occurrence.Allocates) ∧
      (∀ occurrence ∈ history, occurrence.after.controller.justAllocated = true →
        occurrence.before.controller.justAllocated = true ∨ occurrence.opens = true) ∧
      (∀ more : List Action,
        (∀ occurrence ∈ (shared.step readSignal).history more, occurrence.opens = false) →
          ((shared.step readSignal).after more).toldNow = some (.flag false)) ∧
      history.countP (·.tells) ≤ history.countP (·.opens) := by
  intro start shared history
  have locked := locked_after settings actions
  have lockedBefore : ∀ occurrence ∈ history, occurrence.before.Locked :=
    locked_of_mem_history (locked_after settings [])
  refine ⟨?_, ?_, ?_, ?_, ?_⟩
  · rw [← signal_after settings actions]
    rfl
  · intro occurrence listed opened
    exact Occurrence.allocates_of_opens (lockedBefore occurrence listed) opened
  · intro occurrence listed raised
    rw [Occurrence.signal_after (lockedBefore occurrence listed)] at raised
    exact (Bool.or_eq_true _ _).mp ((Bool.and_eq_true _ _).mp raised).2
  · intro more quiet
    have lowered : ((shared.step readSignal).after more).controller.justAllocated = false := by
      rw [Bool.eq_false_iff]
      intro raised
      rcases opened_of_signal (locked_step locked readSignal) raised with
        early | ⟨occurrence, listed, opened⟩
      · cases early
      · rw [quiet occurrence listed] at opened
        cases opened
    rw [← lowered]
    rfl
  · exact (Nat.le_add_right _ _).trans (tells_le_opens settings actions)

open Simulation in
/-- The signal is read while the first allocation still waits, when it has ended, and
after another one has joined the conference. -/
theorem signal_tells_openings_of_early_reader :
    let reply (channel : String) : Delivery := .answered (.conference
      { id := some ⟨"room"⟩,
        contents := [{ media := .audio, channels := [{ id := some channel }] }] })
    let allocate (name : String) : Action :=
      .start (.allocate true ⟨name⟩ true [Sample.audioContent 1])
    let start : SharedController := { controller := { settings := {} } }
    let actions : List Action :=
      [.start (.setBridge ⟨"bridge"⟩), .finish .silence none, allocate "alice", readSignal,
        .finish (reply "a") none]
    let more : List Action := [allocate "bob", .finish (reply "b") none]
    let shared := start.after actions
    let history := start.history actions
    shared.toldNow = some (.flag true) ∧
      (∃ occurrence ∈ history, occurrence.opens = true ∧ occurrence.Allocates) ∧
      history.countP (·.tells) ≤ history.countP (·.opens) ∧
      ((shared.step readSignal).after more).controller.state.id = some ⟨"room"⟩ ∧
      ((shared.step readSignal).after more).toldNow = some (.flag false) := by
  intro reply allocate start actions more shared history
  obtain ⟨told, opening, _, rest, counted⟩ := signal_tells_openings {} actions
  have openedOnce : ((history.rtakeWhile (!·.reads)).any (·.opens)) = true := by decide
  obtain ⟨occurrence, recent, opened⟩ := List.any_eq_true.mp openedOnce
  have listed : occurrence ∈ history := (List.rtakeWhile_suffix _ _).subset recent
  refine ⟨told.trans ?_, ⟨occurrence, listed, opened, opening occurrence listed opened⟩,
    counted, by decide, rest more (by decide)⟩
  rw [← openedOnce]

end SharedController

end ConferenceFocus.Control
