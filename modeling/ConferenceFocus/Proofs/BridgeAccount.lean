import ConferenceFocus.Proofs.BridgeGrants

/-!
# What a bridge hosts on account of a controller

As long as only granted descriptors are passed in, all that is alive in the
conference a controller holds is listed in its state, and all that is alive was
granted.  `Accounted` carries this through every run.
-/

namespace ConferenceFocus.Connected

open Colibri Control Simulation

variable {supply : Nat → String} {run : Connected}

/-- Nothing is alive in the conference held that the controller does not know of,
and nothing is alive at all that was not granted. -/
structure Accounted (supply : Nat → String) (run : Connected) : Prop where
  orderly : Orderly supply run
  chosen : run.controller.state.id.isSome = true → run.controller.bridge.isSome = true
  granted : ∀ hosted ∈ run.bridge.conferences, ∀ name role, hosted.Hosts name role →
    ∃ channels ∈ run.granted, channels.Lists name role
  covered : ∀ hosted ∈ run.bridge.conferences, run.controller.state.id = some hosted.id →
    ∀ name role, hosted.Hosts name role → run.controller.state.Lists name role
  /-- The bridge keeps no empty conference for the controller. -/
  filled : ∀ hosted ∈ run.bridge.conferences, run.controller.state.id = some hosted.id →
    hosted.isEmpty = false

theorem accounted_start (settings : Settings) :
    Accounted supply { controller := { settings } } where
  orderly := orderly_start settings
  chosen := by simp
  granted := by simp
  covered := by simp
  filled := by simp

theorem Accounted.vouched (accounted : Accounted supply run) : Vouched supply run :=
  ⟨accounted.orderly, accounted.granted⟩

/-- A turn that brings nothing to life and grants nothing keeps the account. -/
theorem Accounted.keep (accounted : Accounted supply run) {controller : Controller}
    {bridge : SimulatedBridge}
    (vouched : Vouched supply { controller, bridge, granted := run.granted })
    (chosen : controller.state.id.isSome = true → controller.bridge.isSome = true)
    (before : ∀ other ∈ bridge.conferences, ∀ name role, other.Hosts name role →
      ∃ earlier ∈ run.bridge.conferences, earlier.id = other.id ∧ earlier.Hosts name role)
    (held : controller.state.id = none ∨ controller.state.id = run.controller.state.id ∧
      controller.state.contents = run.controller.state.contents)
    (filled : ∀ other ∈ bridge.conferences, controller.state.id = some other.id →
      other ∈ run.bridge.conferences ∨ other.isEmpty = false) :
    Accounted supply { controller, bridge, granted := run.granted } where
  orderly := vouched.orderly
  chosen := chosen
  granted := vouched.granted
  covered := by
    intro other present named name role alive
    obtain ⟨earlier, earlierPresent, sameId, earlierAlive⟩ :=
      before other present name role alive
    rcases held with forgotten | ⟨sameHeld, sameContents⟩
    · cases forgotten.symm.trans named
    · have listed := accounted.covered earlier earlierPresent
        (sameId ▸ sameHeld.symm.trans named) name role earlierAlive
      unfold Conference.Lists at listed ⊢
      rw [sameContents]
      exact listed
  filled := by
    intro other present named
    rcases filled other present named with earlier | filled
    · rcases held with forgotten | ⟨sameHeld, _⟩
      · cases forgotten.symm.trans named
      · exact accounted.filled other earlier (sameHeld.symm.trans named)
    · exact filled

section Allocation

variable {useBundle : Bool} {endpoint : EndpointId} {initiator : Bool}
  {contents : List MediaContent} {request : Request} {reply : Conference}
  {bridge : SimulatedBridge}

theorem Accounted.allocate (distinct : Function.Injective supply)
    (accounted : Accounted supply run)
    (composed : run.controller.Composed (.allocate useBundle endpoint initiator contents) request)
    (processed : run.bridge.Processed supply request (.conference reply, bridge))
    {controller : Controller} (merges : run.controller.state.merge reply = .ok controller.state)
    (chosen : controller.bridge.isSome = true)
    (vouched : Vouched supply
      { controller, bridge, granted := run.granted ++ [reply.restrictTo contents] }) :
    Accounted supply
      { controller, bridge, granted := run.granted ++ [reply.restrictTo contents] } := by
  have anew := processed.anew distinct composed.asksAnew.unnamed
  obtain ⟨id, replied, absorbed⟩ := Conference.absorb_of_merge merges
  -- A conference that is only now named by the bridge is none that it had before.
  have held : ∀ earlier ∈ run.bridge.conferences, controller.state.id = some earlier.id →
      run.controller.state.id = some earlier.id := by
    intro earlier present named
    rw [absorbed, ← show reply.id = (run.controller.state.absorb reply id).id from replied,
      anew.id] at named
    cases asked : request.conference.id with
    | some other =>
        rw [run.bridge.arrival_of_id supply asked] at named
        rw [← composed.id, asked, named]
    | none =>
        rw [SimulatedBridge.arrival_id_of_none asked] at named
        have minted := accounted.orderly.sound.ids earlier present
        rw [← Option.some.inj named] at minted
        exact absurd minted (not_minted_of_le distinct (Nat.le_refl _))
  refine ⟨vouched.orderly, fun _ => chosen, vouched.granted, ?_, ?_⟩
  · intro other present named name role alive
    have listed : run.controller.state.Lists name role ∨ reply.Lists name role := by
      rcases processed.hosts_of_conference present alive with
        listed | ⟨earlier, earlierPresent, sameId, earlierAlive⟩
      · exact .inr listed
      · exact .inl (accounted.covered earlier earlierPresent
          (held earlier earlierPresent (sameId ▸ named)) name role earlierAlive)
    change controller.state.Lists name role
    rw [absorbed]
    exact (Conference.lists_absorb _ reply id name role).mpr listed
  · intro other present named
    refine processed.filled_of_conference present (replied.trans ?_)
    rw [← named, absorbed]
    rfl

end Allocation

theorem accounted_step (distinct : Function.Injective supply) (accounted : Accounted supply run)
    {call : Call} (allowed : OnlyGranted run call) : Accounted supply (run.step supply call) := by
  have vouched := vouched_step distinct accounted.vouched allowed
  have turns := run.turns supply accounted.orderly.online call
  unfold step answer at vouched ⊢
  generalize run.turn supply call = result at vouched turns ⊢
  cases turns with
  | unsent unsent settled outcome =>
      cases outcome with
      | takes useBundle endpoint initiator contents reply merged allocation delivered =>
          cases delivered
      | stays sameId sameContents chosen nothing spared =>
          rw [nothing, Option.toList_none, List.append_nil] at vouched ⊢
          refine accounted.keep vouched ?_ (fun other present name role alive =>
            ⟨other, present, rfl, alive⟩) (.inr ⟨sameId, sameContents⟩)
            fun other present _ => .inl present
          rw [sameId]
          exact fun held => chosen (accounted.chosen held)
      | forgets expiry held forgotten nothing =>
          rw [nothing, Option.toList_none, List.append_nil] at vouched ⊢
          exact accounted.keep vouched (by simp [forgotten])
            (fun other present name role alive => ⟨other, present, rfl, alive⟩)
            (.inl (by rw [forgotten])) fun other present _ => .inl present
  | @sent turn request reply bridge sent settled outcome processed =>
      cases outcome with
      | takes useBundle endpoint initiator contents reply merged allocation delivered merges state
          chosen answer =>
          subst allocation
          cases delivered
          rw [answer] at vouched ⊢
          exact accounted.allocate distinct (Controller.composed_of_intent? rfl sent) processed
            (state ▸ merges) chosen vouched
      | forgets expiry held forgotten nothing =>
          subst expiry
          rw [nothing, Option.toList_none, List.append_nil] at vouched ⊢
          have composed := Controller.composed_expireConference sent
          exact accounted.keep vouched (by simp [forgotten])
            (fun other stored name role alive =>
              accounted.vouched.hosts_before composed rfl (.inr rfl) processed stored alive)
            (.inl (by rw [forgotten])) (by simp [forgotten])
      | stays sameId sameContents chosen nothing spared =>
          obtain ⟨intent, wanted, composed⟩ | ⟨expiry, held, _⟩ :=
            Controller.composed_of_request? sent
          · rw [nothing, Option.toList_none, List.append_nil] at vouched ⊢
            refine accounted.keep vouched ?_ (fun other stored name role alive =>
              accounted.vouched.hosts_before_of_nothing distinct allowed wanted sent processed
                (settled ▸ nothing) stored alive) (.inr ⟨sameId, sameContents⟩) ?_
            · rw [sameId]
              exact fun held => chosen (accounted.chosen held)
            · intro other stored named
              exact processed.filled ((composed.id.trans sameId.symm).trans named) stored
          · rw [spared expiry] at held
            cases held

theorem Accounted.of_reachable (distinct : Function.Injective supply) {origin : Connected}
    (accounted : Accounted supply origin)
    (reachable : Reachable supply OnlyGranted origin run) : Accounted supply run := by
  induction reachable with
  | start => exact accounted
  | step reachable call allowed ih => exact accounted_step distinct ih allowed

end ConferenceFocus.Connected
