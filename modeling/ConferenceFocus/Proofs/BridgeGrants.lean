import ConferenceFocus.Proofs.ConnectedRuns

/-!
# What a bridge hosts was granted

As long as only granted descriptors are passed in, all that is alive on the bridge
was granted.  A call about a descriptor can therefore take nothing for what it is
not, and brings nothing to life.
-/

namespace ConferenceFocus.Connected

open Colibri Control Simulation

variable {supply : Nat → String} {run : Connected}

/-- Nothing is alive that was not granted. -/
structure Vouched (supply : Nat → String) (run : Connected) : Prop where
  orderly : Orderly supply run
  granted : ∀ hosted ∈ run.bridge.conferences, ∀ name role, hosted.Hosts name role →
    ∃ channels ∈ run.granted, channels.Lists name role

theorem vouched_start (settings : Settings) :
    Vouched supply { controller := { settings } } where
  orderly := orderly_start settings
  granted := by simp

section Told

variable {intent : Intent} {channels : Conference} {request : Request}
  {result : Reply × SimulatedBridge}

/-- What a request about a granted descriptor names without expiring it is alive as
what the request takes it for, if it is alive at all. -/
theorem Vouched.agrees (vouched : Vouched supply run)
    (composed : run.controller.Composed intent request)
    (about : intent.channels? = some channels)
    (source : channels ∈ run.granted ∨ intent.expire? = some 0) :
    ∀ hosted ∈ run.bridge.conferences, ∀ entry ∈ request.conference.entries, ∀ name,
      entry.name? = some name → entry.expire? ≠ some 0 → hosted.knows name = true →
        hosted.Hosts name entry.role := by
  intro hosted present entry asked name named lasts known
  obtain ⟨⟨other, sameName, listed⟩, expire⟩ := composed.listed about asked
  obtain rfl := Option.some.inj (named.symm.trans sameName)
  rcases source with granted | expires
  · obtain ⟨aliveRole, alive⟩ := HostedConference.knows_iff.mp known
    obtain ⟨grant, grantGranted, grantLists⟩ :=
      vouched.granted hosted present name aliveRole alive
    rw [vouched.orderly.roles channels granted grant grantGranted name entry.role aliveRole
      listed grantLists]
    exact alive
  · exact absurd (expire.trans expires) lasts

/-- A request about a granted descriptor, or one that only expires, brings nothing
to life. -/
theorem Vouched.hosts_before (vouched : Vouched supply run)
    (composed : run.controller.Composed intent request)
    (about : intent.channels? = some channels)
    (source : channels ∈ run.granted ∨ intent.expire? = some 0)
    (processed : run.bridge.Processed supply request result) {other : HostedConference}
    (stored : other ∈ result.2.conferences) {name : String} {role : Role}
    (alive : other.Hosts name role) :
    ∃ earlier ∈ run.bridge.conferences, earlier.id = other.id ∧ earlier.Hosts name role := by
  refine processed.hosts_before (fun entry asked => ?_)
    (vouched.agrees composed about source) stored alive
  obtain ⟨⟨name, named, _⟩, _⟩ := composed.listed about asked
  exact named ▸ Option.some_ne_none name

end Told

section Allocation

variable {useBundle : Bool} {endpoint : EndpointId} {initiator : Bool}
  {contents : List MediaContent} {request : Request} {reply : Conference}
  {bridge : SimulatedBridge}

theorem merge_of_processed (distinct : Function.Injective supply)
    (composed : run.controller.Composed (.allocate useBundle endpoint initiator contents) request)
    (processed : run.bridge.Processed supply request (.conference reply, bridge)) :
    ∃ merged, run.controller.state.merge reply = .ok merged := by
  have anew := processed.anew distinct composed.asksAnew.unnamed
  refine ⟨_, Conference.merge_eq_ok anew.id (fun held named => ?_) anew.complete⟩
  rw [run.bridge.arrival_of_id supply (composed.id.trans named)]

theorem refused_of_granted?_eq_none (distinct : Function.Injective supply)
    (sent : (run.controller.handle
      (.allocate useBundle endpoint initiator contents)).request? = some request)
    {reply : Reply} (processed : run.bridge.Processed supply request (reply, bridge))
    (nothing : ((run.controller.handle (.allocate useBundle endpoint initiator contents)).settle
      (.answered reply) none).answer.granted? = none) :
    bridge = (run.bridge.arrival supply request).2 := by
  cases processed with
  | refused condition missing => rfl
  | carried hosted entries minted present sameId known naming =>
      obtain ⟨merged, merges⟩ := merge_of_processed distinct
        (Controller.composed_of_intent? rfl sent)
        (.carried hosted entries minted present sameId known naming)
      have answer := Controller.answer_allocate_of_merge none sent merges
      simp only [Controller.handle] at nothing
      rw [answer] at nothing
      cases nothing

/-- What the reply to an allocation lists is handed out. -/
theorem entries_restrictTo_of_processed (distinct : Function.Injective supply)
    (composed : run.controller.Composed (.allocate useBundle endpoint initiator contents) request)
    (processed : run.bridge.Processed supply request (.conference reply, bridge)) :
    (reply.restrictTo contents).entries = reply.entries := by
  have anew := processed.anew distinct composed.asksAnew.unnamed
  apply Conference.entries_restrictTo
  intro entry within
  obtain ⟨asked, asked_within, sameMedia⟩ := anew.requested entry within
  obtain ⟨content, present, media⟩ := composed.asksAnew.requested asked asked_within
  exact ⟨content, present, sameMedia.trans media⟩

end Allocation

/-- A call that wants something of the bridge and is granted nothing brings nothing
to life. -/
theorem Vouched.hosts_before_of_nothing (distinct : Function.Injective supply)
    (vouched : Vouched supply run) {call : Call} (allowed : OnlyGranted run call)
    {intent : Intent} (wanted : call.intent? = some intent) {request : Request}
    (sent : (run.controller.handle call).request? = some request) {reply : Reply}
    {bridge : SimulatedBridge} (processed : run.bridge.Processed supply request (reply, bridge))
    (nothing : ((run.controller.handle call).settle (.answered reply) none).answer.granted? = none)
    {other : HostedConference} (stored : other ∈ bridge.conferences) {name : String} {role : Role}
    (alive : other.Hosts name role) :
    ∃ earlier ∈ run.bridge.conferences, earlier.id = other.id ∧ earlier.Hosts name role := by
  cases about : intent.channels? with
  | some channels =>
      have passed : channels ∈ call.channels? := by
        rw [Call.channels?, wanted]
        exact about
      exact vouched.hosts_before (Controller.composed_of_intent? wanted sent) about
        (.inl (allowed channels passed)) processed stored alive
  | none =>
      obtain ⟨useBundle, endpoint, initiator, contents, rfl⟩ :=
        Call.eq_allocate_of_intent? wanted about
      rw [refused_of_granted?_eq_none distinct sent processed nothing] at stored
      exact ⟨other, SimulatedBridge.mem_of_hosts_arrival stored alive, rfl, alive⟩

theorem vouched_step (distinct : Function.Injective supply) (vouched : Vouched supply run)
    {call : Call} (allowed : OnlyGranted run call) : Vouched supply (run.step supply call) := by
  refine ⟨orderly_step distinct vouched.orderly call, fun other stored name role alive => ?_⟩
  have turns := run.turns supply vouched.orderly.online call
  unfold step answer at stored ⊢
  generalize run.turn supply call = result at turns stored ⊢
  dsimp only at stored ⊢
  -- What was alive before was granted before.
  have before (earlier : ∃ earlier ∈ run.bridge.conferences,
      earlier.id = other.id ∧ earlier.Hosts name role) :
      ∃ channels ∈ run.granted ++ result.1.answer.granted?.toList, channels.Lists name role := by
    obtain ⟨earlier, present, _, earlierAlive⟩ := earlier
    obtain ⟨channels, granted, listed⟩ := vouched.granted earlier present name role earlierAlive
    exact ⟨channels, List.mem_append_left _ granted, listed⟩
  cases turns with
  | unsent unsent settled outcome => exact before ⟨other, stored, rfl, alive⟩
  | @sent turn request reply bridge sent settled outcome processed =>
      cases outcome with
      | takes useBundle endpoint initiator contents reply merged allocation delivered merges state
          chosen answer =>
          subst allocation
          cases delivered
          rcases processed.hosts_of_conference stored alive with listed | earlier
          · rw [answer]
            refine ⟨_, List.mem_append_right _ (List.mem_singleton.mpr rfl), ?_⟩
            have granted := entries_restrictTo_of_processed distinct
              (Controller.composed_of_intent? rfl sent) processed
            rw [Conference.lists_iff, granted]
            exact Conference.lists_iff.mp listed
          · exact before earlier
      | forgets expiry held forgotten nothing =>
          subst expiry
          exact before (vouched.hosts_before (Controller.composed_expireConference sent) rfl
            (.inr rfl) processed stored alive)
      | stays sameId sameContents chosen nothing spared =>
          obtain ⟨intent, wanted, composed⟩ | ⟨expiry, held, _⟩ :=
            Controller.composed_of_request? sent
          · exact before (vouched.hosts_before_of_nothing distinct allowed wanted sent processed
              (settled ▸ nothing) stored alive)
          · rw [spared expiry] at held
            cases held

end ConferenceFocus.Connected
