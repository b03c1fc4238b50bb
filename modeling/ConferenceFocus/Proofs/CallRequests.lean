import ConferenceFocus.Proofs.ControllerTurns
import ConferenceFocus.Proofs.IntentEntries

/-!
# The requests that calls lead to

A call sends at most one request, composed for one intent.  The intent can be
read off the call, except when the whole conference is expired: then it is
about all that the controller holds.
-/

namespace ConferenceFocus.Control

open Colibri

namespace Call

/-- What a call wants of the bridge, whatever the state of the controller. -/
def intent? : Call → Option Intent
  | .setBridge _ | .setName _ | .takeJustAllocated | .expireConference => none
  | .allocate useBundle endpoint initiator contents =>
      some (.allocate useBundle endpoint initiator contents)
  | .expireChannels channels => some (.expire channels)
  | .updateCodecs descriptions channels => some (.updateCodecs descriptions channels)
  | .updateTransports initiator transports channels =>
      some (.updateTransports initiator transports channels)
  | .updateBundle initiator transport channels =>
      some (.updateBundle initiator transport channels)
  | .updateSources streams channels => some (.replaceStreams streams channels)
  | .mute channels on | .hold channels on =>
      some (.setDirection (if on then .inactive else .sendrecv) channels)

def channels? (call : Call) : Option Conference :=
  call.intent?.bind (·.channels?)

theorem eq_allocate_of_intent? {call : Call} {intent : Intent}
    (wanted : call.intent? = some intent) (about : intent.channels? = none) :
    ∃ useBundle endpoint initiator contents,
      call = .allocate useBundle endpoint initiator contents := by
  cases call with
  | allocate useBundle endpoint initiator contents => exact ⟨_, _, _, _, rfl⟩
  | _ => cases wanted <;> cases about

end Call

namespace Controller

/-- A request composed for an intent is about the conference held, and its
channels and connections are those the intent asks for. -/
structure Composed (controller : Controller) (intent : Intent) (request : Request) : Prop where
  chosen : controller.bridge.isSome = true
  id : request.conference.id = controller.state.id
  mem_entries : ∀ entry, entry ∈ request.conference.entries ↔
    entry ∈ intent.entries controller.settings ∧ entry.role ≠ .bundle

/-- A request is composed for an intent, and addressed to the bridge chosen. -/
def Composes (controller : Controller) (intent : Intent) (request : Request) : Prop :=
  ∃ bridge next, controller.bridge = some bridge ∧
    controller.compose bridge intent = (some request, next)

variable {controller next : Controller} {bridge : BridgeAddress} {intent : Intent}
  {request : Request}

/-- What is composed is the draft for the intent, addressed to the bridge. -/
theorem eq_of_compose (composed : controller.compose bridge intent = (some request, next)) :
    request =
      { bridge, seq := controller.lastSeq + 1,
        conference := (intent.entries controller.settings).foldl Conference.place
          { id := controller.state.id, name := controller.state.name } } := by
  rw [compose_eq] at composed
  split at composed <;> cases composed
  rfl

theorem Composes.composed (composes : Composes controller intent request) :
    Composed controller intent request := by
  obtain ⟨bridge, next, chosen, composed⟩ := composes
  rw [eq_of_compose composed]
  refine ⟨by rw [chosen]; rfl, id_foldl_place _ _, fun entry => ?_⟩
  refine (mem_entries_foldl_place _ _ entry).trans ?_
  simp [Conference.entries]

/-- Nothing is composed for an intent only if it asks for nothing. -/
theorem entries_of_compose_eq_none (withheld : controller.compose bridge intent = (none, next)) :
    intent.entries controller.settings = [] := by
  rw [compose_eq] at withheld
  split at withheld
  · assumption
  · cases withheld

theorem composes_dispatch {operation : Operation}
    (sent : (controller.dispatch operation intent).request? = some request) :
    Composes controller intent request := by
  unfold dispatch at sent
  cases chosen : controller.bridge with
  | none =>
      rw [chosen] at sent
      cases sent
  | some address =>
      rw [chosen] at sent
      dsimp only at sent
      rcases composed : controller.compose address intent with ⟨_ | request, next⟩
      · rw [composed] at sent
        cases sent
      · rw [composed] at sent
        cases sent
        exact ⟨address, next, chosen, composed⟩

theorem entries_of_request?_eq_none {operation : Operation}
    (chosen : controller.bridge.isSome = true)
    (unsent : (controller.dispatch operation intent).request? = none) :
    intent.entries controller.settings = [] := by
  obtain ⟨address, chosen⟩ := Option.isSome_iff_exists.mp chosen
  simp only [dispatch, chosen] at unsent
  split at unsent
  · next withheld => exact entries_of_compose_eq_none withheld
  · cases unsent

theorem composes_setInactive {operation : Operation} {channels : Conference} {inactive : Bool}
    (sent : (controller.setInactive operation channels inactive).request? = some request) :
    Composes controller
      (.setDirection (if inactive then .inactive else .sendrecv) channels) request := by
  unfold setInactive at sent
  dsimp only at sent
  split at sent
  · cases sent
  · split at sent
    · cases sent
    · exact composes_dispatch sent

/-- A request is composed for what the call wants, or for the expiry of all that
the controller holds. -/
theorem composes_of_request? {call : Call}
    (sent : (controller.handle call).request? = some request) :
    (∃ intent, call.intent? = some intent ∧ Composes controller intent request) ∨
      call = .expireConference ∧ controller.state.id.isSome = true ∧
        Composes controller (.expire controller.state) request := by
  cases call with
  | setBridge address => cases sent
  | setName name => cases sent
  | takeJustAllocated => cases sent
  | expireConference =>
      unfold handle expireConference at sent
      cases held : controller.state.id with
      | none =>
          rw [held] at sent
          cases sent
      | some id =>
          simp only [held, Exchange.request?_map] at sent
          exact .inr ⟨rfl, rfl, composes_dispatch sent⟩
  | allocate useBundle endpoint initiator contents =>
      refine .inl ⟨_, rfl, ?_⟩
      unfold handle allocate at sent
      cases chosen : controller.bridge with
      | none =>
          simp only [chosen] at sent
          cases sent
      | some address =>
          simp only [chosen] at sent
          split at sent
          · cases sent
          · next composed =>
              cases sent
              exact ⟨address, _, chosen, composed⟩
  | updateSources streams channels =>
      refine .inl ⟨_, rfl, ?_⟩
      unfold handle updateSources at sent
      cases chosen : controller.bridge with
      | none =>
          simp only [chosen] at sent
          cases sent
      | some address =>
          simp only [chosen] at sent
          split at sent
          · cases sent
          · next composed =>
              cases sent
              exact ⟨address, _, chosen, composed⟩
  | mute channels on => exact .inl ⟨_, rfl, composes_setInactive sent⟩
  | hold channels on => exact .inl ⟨_, rfl, composes_setInactive sent⟩
  | expireChannels channels => exact .inl ⟨_, rfl, composes_dispatch sent⟩
  | updateCodecs descriptions channels => exact .inl ⟨_, rfl, composes_dispatch sent⟩
  | updateTransports initiator transports channels =>
      exact .inl ⟨_, rfl, composes_dispatch sent⟩
  | updateBundle initiator transport channels => exact .inl ⟨_, rfl, composes_dispatch sent⟩

theorem composed_of_request? {call : Call}
    (sent : (controller.handle call).request? = some request) :
    (∃ intent, call.intent? = some intent ∧ Composed controller intent request) ∨
      call = .expireConference ∧ controller.state.id.isSome = true ∧
        Composed controller (.expire controller.state) request := by
  obtain ⟨intent, wanted, composes⟩ | ⟨rfl, held, composes⟩ := composes_of_request? sent
  · exact .inl ⟨intent, wanted, composes.composed⟩
  · exact .inr ⟨rfl, held, composes.composed⟩

theorem composed_of_intent? {call : Call} (wanted : call.intent? = some intent)
    (sent : (controller.handle call).request? = some request) :
    Composed controller intent request := by
  obtain ⟨other, otherWanted, composed⟩ | ⟨rfl, _⟩ := composed_of_request? sent
  · rw [wanted, Option.some_inj] at otherWanted
    exact otherWanted ▸ composed
  · cases wanted

theorem composed_expireConference
    (sent : (controller.handle .expireConference).request? = some request) :
    Composed controller (.expire controller.state) request := by
  obtain ⟨intent, impossible, _⟩ | ⟨_, _, composed⟩ := composed_of_request? sent
  · cases impossible
  · exact composed

/-- What the request of an allocation looks like: nothing in it has a name, and
all of it is to last. -/
structure AsksAnew (contents : List MediaContent) (request : Request) : Prop where
  unnamed : ∀ entry ∈ request.conference.entries, entry.name? = none
  lasts : ∀ entry ∈ request.conference.entries, entry.expire? ≠ some 0
  requested : ∀ entry ∈ request.conference.entries,
    ∃ content ∈ contents, entry.media? = some content.media

theorem Composed.asksAnew {useBundle : Bool} {endpoint : EndpointId} {initiator : Bool}
    {contents : List MediaContent}
    (composed : Composed controller (.allocate useBundle endpoint initiator contents) request) :
    AsksAnew contents request := by
  have asked := fun entry (listed : entry ∈ request.conference.entries) =>
    (composed.mem_entries entry).mp listed
  refine ⟨fun entry listed => ?_, fun entry listed => ?_, fun entry listed => ?_⟩ <;>
    obtain ⟨unnamed, lasts, requested⟩ :=
      Intent.unnamed_of_mem_entries (asked entry listed).1 (asked entry listed).2
  · exact unnamed
  · rw [lasts]
    exact fun same => absurd (Option.some.inj same) (by decide)
  · exact requested

/-- A request about a descriptor names what is listed there, and expires it or not
as the intent does. -/
theorem Composed.listed {channels : Conference} (composed : Composed controller intent request)
    (about : intent.channels? = some channels) {entry : Entry}
    (asked : entry ∈ request.conference.entries) :
    (∃ name, entry.name? = some name ∧ channels.Lists name entry.role) ∧
      entry.expire? = intent.expire? := by
  obtain ⟨wanted, proper⟩ := (composed.mem_entries entry).mp asked
  obtain ⟨content, present, ⟨name, named, listed⟩, _, expire⟩ :=
    Intent.speaksOf_of_mem_entries controller.settings about wanted proper
  exact ⟨⟨name, named, content, present, listed⟩, expire⟩

end Controller

end ConferenceFocus.Control
