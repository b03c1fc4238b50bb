import ConferenceFocus.Proofs.BridgeRelays
import ConferenceFocus.Proofs.CallOutcomes
import ConferenceFocus.Proofs.CallRequests

/-!
# A controller connected to a bridge

A `Connected` is a controller with the bridge at its far end, and a record of
the descriptors that its allocations have returned.  `Orderly` says what holds
after any run of calls, whatever descriptors are passed in: names are minted by
the bridge, and no name stands for two things in what has been granted.
-/

namespace ConferenceFocus

open Colibri Control Simulation

structure Connected where
  controller : Controller
  bridge : SimulatedBridge := {}
  /-- The descriptors that allocations have returned, in their order. -/
  granted : List Conference := []

namespace Connected

variable {supply : Nat → String}

def turn (supply : Nat → String) (run : Connected) (call : Call) : Turn × SimulatedBridge :=
  run.controller.call (SimulatedBridge.link supply) run.bridge call

def answer (supply : Nat → String) (run : Connected) (call : Call) : Answer :=
  (run.turn supply call).1.answer

def step (supply : Nat → String) (run : Connected) (call : Call) : Connected :=
  { controller := (run.turn supply call).1.controller
    bridge := (run.turn supply call).2
    granted := run.granted ++ (run.answer supply call).granted?.toList }

inductive Reachable (supply : Nat → String) (permitted : Connected → Call → Prop)
    (origin : Connected) : Connected → Prop where
  | start : Reachable supply permitted origin origin
  | step {run : Connected} (reachable : Reachable supply permitted origin run) (call : Call)
      (allowed : permitted run call) : Reachable supply permitted origin (run.step supply call)

theorem Reachable.mono {permitted tolerated : Connected → Call → Prop} {origin run : Connected}
    (tolerant : ∀ run call, permitted run call → tolerated run call)
    (reachable : Reachable supply permitted origin run) :
    Reachable supply tolerated origin run := by
  induction reachable with
  | start => exact .start
  | step reachable call allowed ih => exact ih.step call (tolerant _ call allowed)

/-- The descriptor passed in, if there is one, was returned by an earlier allocation. -/
def OnlyGranted (run : Connected) (call : Call) : Prop :=
  ∀ channels ∈ call.channels?, channels ∈ run.granted

instance (run : Connected) (call : Call) : Decidable (OnlyGranted run call) :=
  inferInstanceAs (Decidable (∀ channels ∈ call.channels?, channels ∈ run.granted))

section Turn

variable {run : Connected} {call : Call}

theorem turn_of_unsent (unsent : (run.controller.handle call).request? = none) :
    run.turn supply call = ((run.controller.handle call).settle .silence none, run.bridge) := by
  unfold turn Controller.call
  cases exchange : run.controller.handle call with
  | finished result => rfl
  | ask | post =>
      rw [exchange] at unsent
      cases unsent

theorem turn_of_sent (online : run.bridge.offline = false) {request : Request}
    (sent : (run.controller.handle call).request? = some request) :
    run.turn supply call =
      ((run.controller.handle call).settle
          (.answered (run.bridge.process supply request).1) none,
        (run.bridge.process supply request).2) := by
  unfold turn Controller.call
  cases exchange : run.controller.handle call with
  | finished result =>
      rw [exchange] at sent
      cases sent
  | ask other resume =>
      rw [exchange] at sent
      cases sent
      simp [Exchange.run, SimulatedBridge.link, SimulatedBridge.ask, online, Exchange.settle]
  | post other resume =>
      rw [exchange] at sent
      cases sent
      simp [Exchange.run, SimulatedBridge.link, SimulatedBridge.post, online, Exchange.settle]

/-- Either nothing is sent and the bridge stays as it is, or a request is sent
and answered. -/
inductive Turns (supply : Nat → String) (run : Connected) (call : Call) :
    Turn × SimulatedBridge → Prop where
  | unsent {turn : Turn} (unsent : (run.controller.handle call).request? = none)
      (settled : turn = (run.controller.handle call).settle .silence none)
      (outcome : run.controller.Outcome call .silence turn) :
      Turns supply run call (turn, run.bridge)
  | sent {turn : Turn} {request : Request} {reply : Reply} {bridge : SimulatedBridge}
      (sent : (run.controller.handle call).request? = some request)
      (settled : turn = (run.controller.handle call).settle (.answered reply) none)
      (outcome : run.controller.Outcome call (.answered reply) turn)
      (processed : run.bridge.Processed supply request (reply, bridge)) :
      Turns supply run call (turn, bridge)

theorem turns (supply : Nat → String) (run : Connected) (online : run.bridge.offline = false)
    (call : Call) : Turns supply run call (run.turn supply call) := by
  cases sent : (run.controller.handle call).request? with
  | none =>
      rw [turn_of_unsent sent]
      exact .unsent sent rfl (run.controller.outcome call .silence none)
  | some request =>
      rw [turn_of_sent online sent]
      exact .sent sent rfl (run.controller.outcome call _ none)
        (run.bridge.processed supply request)

/-- A call does to the bridge what its request does, if it sends one. -/
theorem bridge_step (online : run.bridge.offline = false) :
    (run.step supply call).bridge = run.bridge ∨
      ∃ request, (run.controller.handle call).request? = some request ∧
        ∃ result, run.bridge.Processed supply request result ∧
          (run.step supply call).bridge = result.2 := by
  have turns := run.turns supply online call
  unfold step
  generalize run.turn supply call = result at turns ⊢
  cases turns with
  | unsent unsent settled outcome => exact .inl rfl
  | sent sent settled outcome processed => exact .inr ⟨_, sent, _, processed, rfl⟩

theorem distinctIds_step (supply : Nat → String) (online : run.bridge.offline = false)
    (distinctIds : run.bridge.DistinctIds) (call : Call) :
    (run.step supply call).bridge.DistinctIds := by
  rcases bridge_step online with same | ⟨request, _, result, processed, stepped⟩
  · rw [same]
    exact distinctIds
  · rw [stepped]
    exact SimulatedBridge.distinctIds_processed distinctIds processed

/-- A descriptor is returned only by an allocation, of the reply to its request. -/
theorem exists_allocation (online : run.bridge.offline = false) {channels : Conference}
    (granted : (run.answer supply call).granted? = some channels) :
    ∃ useBundle endpoint initiator contents request reply,
      call = .allocate useBundle endpoint initiator contents ∧
        (run.controller.handle call).request? = some request ∧
        run.bridge.Processed supply request (.conference reply, (run.step supply call).bridge) ∧
        channels = reply.restrictTo contents := by
  have turns := run.turns supply online call
  unfold answer at granted
  unfold step
  generalize run.turn supply call = result at turns granted ⊢
  cases turns with
  | unsent unsent settled outcome =>
      cases outcome with
      | stays _ _ _ nothing | forgets _ _ _ nothing => cases nothing.symm.trans granted
      | takes _ _ _ _ _ _ _ delivered => cases delivered
  | sent sent settled outcome processed =>
      cases outcome with
      | stays _ _ _ nothing | forgets _ _ _ nothing => cases nothing.symm.trans granted
      | takes _ _ _ contents reply merged allocation delivered _ _ _ answer =>
          cases delivered
          rw [answer] at granted
          exact ⟨_, _, _, contents, _, reply, allocation, sent, processed,
            (Option.some.inj granted).symm⟩

end Turn

/-- What holds after every run. -/
structure Orderly (supply : Nat → String) (run : Connected) : Prop where
  online : run.bridge.offline = false
  sound : run.bridge.Sound supply
  held : ∀ id ∈ run.controller.state.id, Minted supply run.bridge.minted id.text
  ids : ∀ channels ∈ run.granted, ∀ id ∈ channels.id, Minted supply run.bridge.minted id.text
  names : ∀ channels ∈ run.granted, ∀ name role, channels.Lists name role →
    Minted supply run.bridge.minted name
  /-- A name stands for one thing in all that has been granted. -/
  roles : ∀ left ∈ run.granted, ∀ right ∈ run.granted, ∀ name leftRole rightRole,
    left.Lists name leftRole → right.Lists name rightRole → leftRole = rightRole

theorem orderly_start (settings : Settings) :
    Orderly supply { controller := { settings } } where
  online := rfl
  sound := ⟨by simp, by simp, by simp⟩
  held := by simp
  ids := by simp
  names := by simp
  roles := by simp

section Orderly

variable {run : Connected}

theorem Orderly.keep (orderly : Orderly supply run) {controller : Controller}
    {bridge : SimulatedBridge} (online : bridge.offline = false) (sound : bridge.Sound supply)
    (grown : run.bridge.minted ≤ bridge.minted)
    (held : ∀ id ∈ controller.state.id, Minted supply bridge.minted id.text) :
    Orderly supply { controller, bridge, granted := run.granted } where
  online := online
  sound := sound
  held := held
  ids := fun channels granted id named => (orderly.ids channels granted id named).mono grown
  names := fun channels granted name role listed =>
    (orderly.names channels granted name role listed).mono grown
  roles := orderly.roles

/-- A grant keeps the order when its names are new and stand for one thing each. -/
theorem Orderly.grant (orderly : Orderly supply run) {channels : Conference}
    (ids : ∀ id ∈ channels.id, Minted supply run.bridge.minted id.text)
    (names : ∀ name role, channels.Lists name role → Minted supply run.bridge.minted name)
    (new : ∀ name role, channels.Lists name role →
      ∀ earlier ∈ run.granted, ∀ other, ¬ earlier.Lists name other)
    (roles : ∀ name left right, channels.Lists name left → channels.Lists name right →
      left = right) :
    Orderly supply { run with granted := run.granted ++ [channels] } where
  online := orderly.online
  sound := orderly.sound
  held := orderly.held
  ids := by
    intro other granted
    rcases List.mem_append.mp granted with earlier | added
    · exact orderly.ids other earlier
    · rw [List.mem_singleton.mp added]
      exact ids
  names := by
    intro other granted
    rcases List.mem_append.mp granted with earlier | added
    · exact orderly.names other earlier
    · rw [List.mem_singleton.mp added]
      exact names
  roles := by
    intro left leftGranted right rightGranted name leftRole rightRole leftListed rightListed
    rcases List.mem_append.mp leftGranted with leftEarlier | leftAdded
    · rcases List.mem_append.mp rightGranted with rightEarlier | rightAdded
      · exact orderly.roles left leftEarlier right rightEarlier name leftRole rightRole leftListed
          rightListed
      · rw [List.mem_singleton.mp rightAdded] at rightListed
        exact absurd leftListed (new name rightRole rightListed left leftEarlier leftRole)
    · rw [List.mem_singleton.mp leftAdded] at leftListed
      rcases List.mem_append.mp rightGranted with rightEarlier | rightAdded
      · exact absurd rightListed (new name leftRole leftListed right rightEarlier rightRole)
      · rw [List.mem_singleton.mp rightAdded] at rightListed
        exact roles name leftRole rightRole leftListed rightListed

section Allocation

variable {useBundle : Bool} {endpoint : EndpointId} {initiator : Bool}
  {contents : List MediaContent} {request : Request} {reply : Conference}
  {bridge : SimulatedBridge}

/-- What the reply to an allocation lists was never granted before. -/
theorem Orderly.unlisted_of_processed (distinct : Function.Injective supply)
    (orderly : Orderly supply run)
    (composed : run.controller.Composed (.allocate useBundle endpoint initiator contents) request)
    (processed : run.bridge.Processed supply request (.conference reply, bridge))
    {name : String} {role : Role} (listed : reply.Lists name role) :
    ∀ earlier ∈ run.granted, ∀ other, ¬ earlier.Lists name other := by
  intro earlier granted other earlierListed
  have anew := processed.anew distinct composed.asksAnew.unnamed
  obtain ⟨index, above, _, rfl⟩ := anew.fresh name role listed
  exact not_minted_of_le distinct above (orderly.names earlier granted _ other earlierListed)

theorem Orderly.allocate (distinct : Function.Injective supply) (orderly : Orderly supply run)
    (composed : run.controller.Composed (.allocate useBundle endpoint initiator contents) request)
    (processed : run.bridge.Processed supply request (.conference reply, bridge))
    {controller : Controller} (merges : run.controller.state.merge reply = .ok controller.state) :
    Orderly supply
      { controller, bridge, granted := run.granted ++ [reply.restrictTo contents] } := by
  have online := (SimulatedBridge.offline_processed processed).trans orderly.online
  obtain ⟨sound, grown⟩ := SimulatedBridge.sound_processed distinct orderly.sound processed
  have anew := processed.anew distinct composed.asksAnew.unnamed
  have minted := processed.minted_id (by rw [composed.id]; exact orderly.held)
  have held : ∀ id ∈ controller.state.id, Minted supply bridge.minted id.text := by
    intro id named
    obtain ⟨other, replied, absorbed⟩ := Conference.absorb_of_merge merges
    rw [absorbed] at named
    cases named
    exact minted id replied
  refine (orderly.keep online sound grown held).grant ?_ ?_ ?_ ?_
  · exact fun id named => minted id named
  · intro name role listed
    obtain ⟨index, _, below, same⟩ := anew.fresh name role
      (Conference.lists_of_lists_restrictTo listed)
    exact ⟨index, below, same⟩
  · exact fun name role listed => orderly.unlisted_of_processed distinct composed processed
      (Conference.lists_of_lists_restrictTo listed)
  · exact fun name left right leftListed rightListed =>
      anew.roles name left right (Conference.lists_of_lists_restrictTo leftListed)
        (Conference.lists_of_lists_restrictTo rightListed)

end Allocation

theorem orderly_step (distinct : Function.Injective supply) (orderly : Orderly supply run)
    (call : Call) : Orderly supply (run.step supply call) := by
  have turns := run.turns supply orderly.online call
  unfold step answer
  generalize run.turn supply call = result at turns ⊢
  cases turns with
  | unsent unsent settled outcome =>
      cases outcome with
      | stays sameId sameContents chosen nothing spared =>
          rw [nothing, Option.toList_none, List.append_nil]
          exact orderly.keep orderly.online orderly.sound (Nat.le_refl _) (sameId ▸ orderly.held)
      | forgets expiry held forgotten nothing =>
          rw [nothing, Option.toList_none, List.append_nil]
          exact orderly.keep orderly.online orderly.sound (Nat.le_refl _) (by simp [forgotten])
      | takes useBundle endpoint initiator contents reply merged allocation delivered =>
          cases delivered
  | @sent turn request reply bridge sent settled outcome processed =>
      have online : bridge.offline = false :=
        (SimulatedBridge.offline_processed processed).trans orderly.online
      obtain ⟨sound, grown⟩ := SimulatedBridge.sound_processed distinct orderly.sound processed
      cases outcome with
      | stays sameId sameContents chosen nothing spared =>
          rw [nothing, Option.toList_none, List.append_nil]
          refine orderly.keep online sound grown ?_
          rw [sameId]
          exact fun id named => (orderly.held id named).mono grown
      | forgets expiry held forgotten nothing =>
          rw [nothing, Option.toList_none, List.append_nil]
          exact orderly.keep online sound grown (by simp [forgotten])
      | takes useBundle endpoint initiator contents reply merged allocation delivered merges state
          chosen answer =>
          subst allocation
          cases delivered
          rw [answer]
          exact orderly.allocate distinct (Controller.composed_of_intent? rfl sent) processed
            (state ▸ merges)

theorem Orderly.minted_le_step (distinct : Function.Injective supply)
    (orderly : Orderly supply run) (call : Call) :
    run.bridge.minted ≤ (run.step supply call).bridge.minted := by
  rcases bridge_step orderly.online with same | ⟨request, _, result, processed, stepped⟩
  · exact Nat.le_of_eq (congrArg SimulatedBridge.minted same.symm)
  · rw [stepped]
    exact (SimulatedBridge.sound_processed distinct orderly.sound processed).2

theorem Orderly.of_reachable (distinct : Function.Injective supply)
    {permitted : Connected → Call → Prop} {origin : Connected} (orderly : Orderly supply origin)
    (reachable : Reachable supply permitted origin run) : Orderly supply run := by
  induction reachable with
  | start => exact orderly
  | step reachable call allowed ih => exact orderly_step distinct ih call

end Orderly

end Connected

end ConferenceFocus
