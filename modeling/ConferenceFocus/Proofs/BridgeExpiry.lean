import ConferenceFocus.Proofs.BridgeAccount
import ConferenceFocus.Simulation.Sample

/-!
# What expiry leaves on the bridge

All that is alive in the conference held is listed in the controller's state
when it is expired.  The expiry therefore ends all of it, the bridge drops the
conference, and the next allocation opens one of another name.
-/

namespace ConferenceFocus.Connected

open Colibri Control Simulation

variable {supply : Nat → String} {run : Connected}

section Expiry

variable {id : ConferenceId}

/-- Once the request that expires all that is held is carried out, nothing is alive. -/
theorem Accounted.not_hosts_apply (accounted : Accounted supply run)
    (held : run.controller.state.id = some id) {request : Request}
    (composed : run.controller.Composed (.expire run.controller.state) request)
    {hosted : HostedConference}
    (present : hosted ∈ (run.bridge.arrival supply request).2.conferences)
    (sameId : hosted.id = id) {used minted : Nat} {contents : List Content}
    (naming : nameEntries supply used request.conference.entries = (entriesOf contents, minted))
    (name : String) (role : Role) : ¬ (hosted.apply contents).Hosts name role := by
  intro alive
  have expires : ∀ entry ∈ request.conference.entries, entry.expire? = some 0 :=
    fun entry asked => (composed.listed rfl asked).2
  have named : ∀ entry ∈ request.conference.entries, entry.name? ≠ none := by
    intro entry asked
    obtain ⟨⟨name, named, _⟩, _⟩ := composed.listed rfl asked
    exact named ▸ Option.some_ne_none name
  rw [nameEntries_of_named _ named] at naming
  rw [HostedConference.apply_eq_foldl, ← (Prod.mk.inj naming).1] at alive
  rcases HostedConference.hosts_of_hosts_foldl alive with
    before | ⟨entry, asked, _, _, lasts⟩
  · -- It was listed when the request was composed, so the request expires it.
    have listed := accounted.covered hosted
      (SimulatedBridge.mem_of_hosts_arrival present before)
      (held.trans (congrArg some sameId.symm)) name role before
    obtain ⟨entry, wanted, sameName, rfl⟩ :=
      Intent.mem_entries_expire run.controller.settings listed
    have proper : entry.role ≠ .bundle := by
      intro bundle
      rw [bundle] at before
      exact before
    exact HostedConference.not_hosts_foldl expires
      ((composed.mem_entries entry).mpr ⟨wanted, proper⟩) sameName rfl alive
  · exact lasts (expires entry asked)

theorem Accounted.ne_of_expired (accounted : Accounted supply run)
    (held : run.controller.state.id = some id) {other : HostedConference}
    (stored : other ∈ (run.step supply .expireConference).bridge.conferences) :
    other.id ≠ id := by
  have chosen := accounted.chosen (held ▸ rfl)
  have turns := run.turns supply accounted.orderly.online .expireConference
  unfold step at stored
  generalize run.turn supply .expireConference = result at turns stored
  cases turns with
  | @unsent turn unsent settled outcome =>
      intro sameId
      have named : run.controller.state.id = some other.id :=
        held.trans (congrArg some sameId.symm)
      have filled := accounted.filled other stored named
      refine absurd (HostedConference.isEmpty_iff.mpr fun name role alive => ?_)
        (Bool.eq_false_iff.mp filled)
      obtain ⟨entry, asked, _, rfl⟩ := Intent.mem_entries_expire run.controller.settings
        (accounted.covered other stored named name role alive)
      simp only [Controller.handle, Controller.expireConference, held, Exchange.request?_map]
        at unsent
      rw [Controller.entries_of_request?_eq_none chosen unsent] at asked
      cases asked
  | @sent turn request reply bridge sent settled outcome processed =>
      have composed := Controller.composed_expireConference sent
      have arrived := run.bridge.arrival_of_id supply (composed.id.trans held)
      cases processed with
      | refused condition missing =>
          rcases missing with absent | ⟨entry, asked, _, lasts⟩
          · have different := absent other stored
            rwa [arrived] at different
          · exact absurd (composed.listed rfl asked).2 lasts
      | carried hosted contents minted present sameId known naming =>
          rw [arrived] at sameId
          rcases SimulatedBridge.mem_store stored with ⟨rfl, filled⟩ | ⟨_, different⟩
          · have emptied := HostedConference.isEmpty_iff.mpr
              (accounted.not_hosts_apply held composed present sameId naming)
            cases filled.symm.trans emptied
          · rw [HostedConference.id_apply, sameId] at different
            exact different

theorem forgotten_of_expired (accounted : Accounted supply run)
    (held : run.controller.state.id = some id) :
    (run.step supply .expireConference).controller.state = {} ∧
      (run.step supply .expireConference).granted = run.granted := by
  have turns := run.turns supply accounted.orderly.online .expireConference
  unfold step answer
  generalize run.turn supply .expireConference = result at turns ⊢
  have forgets {turn : Turn} {delivery : Delivery}
      (outcome : run.controller.Outcome .expireConference delivery turn) :
      turn.controller.state = {} ∧ turn.answer.granted? = none := by
    cases outcome with
    | stays sameId sameContents chosen nothing spared =>
        cases held.symm.trans (spared rfl)
    | forgets expiry held forgotten nothing => exact ⟨forgotten, nothing⟩
    | takes useBundle endpoint initiator contents reply merged impossible => cases impossible
  cases turns with
  | unsent unsent settled outcome =>
      obtain ⟨forgotten, nothing⟩ := forgets outcome
      exact ⟨forgotten, by simp [nothing]⟩
  | sent sent settled outcome processed =>
      obtain ⟨forgotten, nothing⟩ := forgets outcome
      exact ⟨forgotten, by simp [nothing]⟩

theorem Accounted.hosts_before_expired (accounted : Accounted supply run)
    {other : HostedConference}
    (stored : other ∈ (run.step supply .expireConference).bridge.conferences) {name : String}
    {role : Role} (alive : other.Hosts name role) :
    ∃ earlier ∈ run.bridge.conferences, earlier.id = other.id ∧ earlier.Hosts name role := by
  have turns := run.turns supply accounted.orderly.online .expireConference
  unfold step at stored
  generalize run.turn supply .expireConference = result at turns stored
  cases turns with
  | unsent unsent settled outcome => exact ⟨other, stored, rfl, alive⟩
  | sent sent settled outcome processed =>
      exact accounted.vouched.hosts_before (Controller.composed_expireConference sent) rfl
        (.inr rfl) processed stored alive

theorem Accounted.not_knows_of_expired (accounted : Accounted supply run)
    (held : run.controller.state.id = some id) {hosted : HostedConference}
    (present : hosted ∈ run.bridge.conferences) (sameId : hosted.id = id) {name : String}
    (known : hosted.knows name = true) {other : HostedConference}
    (stored : other ∈ (run.step supply .expireConference).bridge.conferences) :
    other.knows name = false := by
  refine Bool.eq_false_iff.mpr fun knows => ?_
  obtain ⟨role, alive⟩ := HostedConference.knows_iff.mp knows
  obtain ⟨earlier, earlierPresent, earlierId, earlierAlive⟩ :=
    accounted.hosts_before_expired stored alive
  have same := accounted.orderly.sound.apart earlier earlierPresent hosted present name
    (HostedConference.knows_iff.mpr ⟨role, earlierAlive⟩) known
  exact accounted.ne_of_expired held stored (by rw [← earlierId, same, sameId])

end Expiry

section Renewal

/-- Nothing that has been granted is taken back, and only a grant names a conference. -/
theorem id_eq_none_of_granted_eq {permitted : Connected → Call → Prop} {origin later : Connected}
    (reachable : Reachable supply permitted origin later) :
    origin.granted <+: later.granted ∧
      (later.granted = origin.granted → origin.controller.state.id = none →
        later.controller.state.id = none) := by
  induction reachable with
  | start => exact ⟨List.prefix_refl _, fun _ none_held => none_held⟩
  | @step run reachable call allowed ih =>
      obtain ⟨grown, anonymous⟩ := ih
      refine ⟨grown.trans (List.prefix_append _ _), fun same none_held => ?_⟩
      -- Between equal ends nothing has been granted in the last step either.
      have nothing : (run.answer supply call).granted? = none := by
        have bound := grown.length_le
        have total := congrArg List.length same
        cases granted : (run.answer supply call).granted? with
        | none => rfl
        | some channels =>
            simp [step, granted] at total
            omega
      have earlier : run.granted = origin.granted := by
        simpa [step, nothing] using same
      obtain ⟨delivery, refusal, settled⟩ := Controller.call_eq_turn
        (SimulatedBridge.link supply) run.controller run.bridge call
      have outcome : run.controller.Outcome call delivery (run.turn supply call).1 :=
        settled ▸ run.controller.outcome call delivery refusal
      cases outcome with
      | stays sameId _ _ _ _ => exact sameId.trans (anonymous earlier none_held)
      | forgets _ _ forgotten _ => exact congrArg Conference.id forgotten
      | takes _ _ _ contents reply _ _ _ _ _ _ granted =>
          have answer : run.answer supply call = .allocated (reply.restrictTo contents) := granted
          rw [answer] at nothing
          cases nothing

theorem Orderly.new_id (distinct : Function.Injective supply) (orderly : Orderly supply run)
    (none_held : run.controller.state.id = none) {useBundle : Bool} {endpoint : EndpointId}
    {initiator : Bool} {contents : List MediaContent} {channels : Conference}
    (answer : run.answer supply (.allocate useBundle endpoint initiator contents) =
      .allocated channels) :
    ∃ id, channels.id = some id ∧ ∀ earlier ∈ run.granted, earlier.id ≠ some id := by
  obtain ⟨_, _, _, _, request, reply, same, sent, processed, rfl⟩ :=
    exists_allocation orderly.online (congrArg Answer.granted? answer)
  cases same
  have composed := Controller.composed_of_intent? rfl sent
  have anew := processed.anew distinct composed.asksAnew.unnamed
  refine ⟨_, anew.id, fun earlier present sameId => ?_⟩
  have minted := orderly.ids earlier present _ sameId
  rw [SimulatedBridge.arrival_id_of_none (composed.id.trans none_held)] at minted
  exact not_minted_of_le distinct (Nat.le_refl _) minted

end Renewal

/-- Expiry leaves nothing behind: all that is alive in the conference held is
listed in the controller's state, so that after its expiry the bridge has
neither the conference nor anything that was alive in it, and the next
allocation opens a conference of a name that none had before. -/
theorem expiry_leaves_nothing (distinct : Function.Injective supply) {settings : Settings}
    (reachable : Reachable supply OnlyGranted { controller := { settings } } run)
    {id : ConferenceId} (held : run.controller.state.id = some id) :
    let expired := run.step supply .expireConference
    (∀ hosted ∈ run.bridge.conferences, hosted.id = id → ∀ name role,
      hosted.Hosts name role → run.controller.state.Lists name role) ∧
    (∀ other ∈ expired.bridge.conferences, other.id ≠ id) ∧
    (∀ hosted ∈ run.bridge.conferences, hosted.id = id → ∀ name, hosted.knows name = true →
      ∀ other ∈ expired.bridge.conferences, other.knows name = false) ∧
    ∀ later, Reachable supply OnlyGranted expired later → later.granted = expired.granted →
      ∀ useBundle endpoint initiator contents channels,
        later.answer supply (.allocate useBundle endpoint initiator contents) =
          .allocated channels →
        ∃ new, channels.id = some new ∧ ∀ earlier ∈ later.granted, earlier.id ≠ some new := by
  intro expired
  have accounted := (accounted_start settings).of_reachable distinct reachable
  refine ⟨?_, ?_, ?_, ?_⟩
  · intro hosted present sameId
    exact accounted.covered hosted present (held.trans (congrArg some sameId.symm))
  · exact fun other stored => accounted.ne_of_expired held stored
  · exact fun hosted present sameId name known other stored =>
      accounted.not_knows_of_expired held present sameId known stored
  · intro later reached same useBundle endpoint initiator contents channels answer
    obtain ⟨forgotten, _⟩ := forgotten_of_expired accounted held
    have none_held := (id_eq_none_of_granted_eq reached).2 same (congrArg Conference.id forgotten)
    have allowed : OnlyGranted run .expireConference := fun _ impossible => by cases impossible
    have orderly := ((accounted_start settings).of_reachable distinct
      (reachable.step .expireConference allowed)).of_reachable distinct reached |>.orderly
    exact orderly.new_id distinct none_held answer

/-- Two endpoints, one of which is expired before the conference is: what is left of
the other goes with it, and the stale descriptors do no harm later. -/
theorem expiry_leaves_nothing_of_two_endpoints :
    let joined := [Call.setBridge SimulatedBridge.address,
        .allocate true ⟨"alice"⟩ true (Sample.fullContents 1 2),
        .allocate true ⟨"bob"⟩ true [Sample.audioContent 3]].foldl (step tally)
      { controller := {} }
    let alice := joined.granted.headD {}
    let run := joined.step tally (.expireChannels alice)
    let expired := run.step tally .expireConference
    let later := expired.step tally (.expireChannels alice)
    let again : Call := .allocate true ⟨"carol"⟩ true [Sample.audioContent 4]
    (run.bridge.conferences.map (·.id)) = [⟨tally 0⟩] ∧
      (∀ other ∈ expired.bridge.conferences, other.id ≠ ⟨tally 0⟩) ∧
      (later.answer tally again).granted?.isSome = true ∧
      ∀ channels, later.answer tally again = .allocated channels →
        ∃ new, channels.id = some new ∧ ∀ earlier ∈ later.granted, earlier.id ≠ some new := by
  intro joined alice run expired later again
  have founded : Reachable tally OnlyGranted { controller := {} } { controller := {} } := .start
  have chosen := founded.step (.setBridge SimulatedBridge.address) (by decide)
  have first := chosen.step (.allocate true ⟨"alice"⟩ true (Sample.fullContents 1 2)) (by decide)
  have second := first.step (.allocate true ⟨"bob"⟩ true [Sample.audioContent 3]) (by decide)
  have reachable : Reachable tally OnlyGranted { controller := {} } run :=
    second.step (.expireChannels alice) (by decide)
  have held : run.controller.state.id = some ⟨tally 0⟩ := by decide
  obtain ⟨_, gone, _, renewed⟩ := expiry_leaves_nothing tally_injective reachable held
  have reached : Reachable tally OnlyGranted expired later :=
    Reachable.start.step (.expireChannels alice) (by decide)
  exact ⟨by decide, gone, by decide, renewed later reached (by decide) true _ true _⟩

end ConferenceFocus.Connected
