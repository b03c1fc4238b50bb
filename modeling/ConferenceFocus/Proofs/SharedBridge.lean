import Mathlib.Logic.Function.Basic
import ConferenceFocus.Proofs.BridgeGrants
import ConferenceFocus.Simulation.Sample

/-!
# Controllers that share a bridge

Any number of controllers may be connected to one bridge, and may be handed each
other's descriptors.  No name is granted twice, and a call about a descriptor
reaches what the descriptor names and nothing else.
-/

namespace ConferenceFocus

open Colibri Control Simulation

namespace Connected

variable {supply : Nat → String} {run : Connected} {call : Call}

/-- A descriptor that is returned shares no name with what was granted before. -/
theorem Orderly.disjoint_of_granted (distinct : Function.Injective supply)
    (orderly : Orderly supply run) {channels : Conference}
    (granted : (run.answer supply call).granted? = some channels) :
    ∀ earlier ∈ run.granted, earlier.names.Disjoint channels.names := by
  intro earlier before name earlierNamed named
  obtain ⟨other, earlierLists⟩ := Conference.mem_names.mp earlierNamed
  obtain ⟨role, listed⟩ := Conference.mem_names.mp named
  obtain ⟨useBundle, endpoint, initiator, contents, request, reply, rfl, sent, processed, rfl⟩ :=
    exists_allocation orderly.online granted
  apply orderly.unlisted_of_processed distinct (Controller.composed_of_intent? rfl sent) processed
    (Conference.lists_of_lists_restrictTo listed) earlier before other
  exact earlierLists

/-- What is vouched for stays so for any controller that holds a name of the bridge's. -/
theorem Vouched.withController (vouched : Vouched supply run) {controller : Controller}
    (held : ∀ id ∈ controller.state.id, Minted supply run.bridge.minted id.text) :
    Vouched supply { run with controller } where
  orderly := vouched.orderly.keep vouched.orderly.online vouched.orderly.sound (Nat.le_refl _) held
  granted := vouched.granted

/-- A call about a granted descriptor reaches only what goes by the names in it,
whether the bridge carries it out or refuses it. -/
theorem Vouched.narrows (vouched : Vouched supply run) (distinctIds : run.bridge.DistinctIds)
    {channels : Conference} (about : call.channels? = some channels)
    (granted : channels ∈ run.granted) :
    run.bridge.Narrows channels.names (run.step supply call).bridge := by
  obtain ⟨intent, wanted, about⟩ := Option.bind_eq_some_iff.mp about
  rcases bridge_step vouched.orderly.online with same | ⟨request, sent, result, processed, stepped⟩
  · exact .of_relays_eq (congrArg SimulatedBridge.relays same)
  · have composed := Controller.composed_of_intent? wanted sent
    have asked (entry : Entry) (within : entry ∈ request.conference.entries) :=
      composed.listed about within
    rw [stepped]
    refine processed.narrows distinctIds (fun entry within => ?_) ?_
      (vouched.agrees composed about (.inl granted))
    · obtain ⟨⟨name, named, listed⟩, _⟩ := asked entry within
      exact ⟨name, Conference.mem_names.mpr ⟨entry.role, listed⟩, named⟩
    · by_cases expires : intent.expire? = some 0
      · exact .inl fun entry within => (asked entry within).2.trans expires
      · exact .inr fun entry within => (asked entry within).2 ▸ expires

end Connected

structure SharedBridge (ι : Type) where
  controllers : ι → Controller
  bridge : SimulatedBridge := {}
  /-- The descriptors that allocations have returned, whoever asked for them. -/
  granted : List Conference := []

namespace SharedBridge

variable {ι : Type} {supply : Nat → String}

/-- One of the controllers, with the bridge and all that has been granted. -/
def seenBy (shared : SharedBridge ι) (index : ι) : Connected :=
  { controller := shared.controllers index, bridge := shared.bridge, granted := shared.granted }

/-- What holds after every run. -/
structure Isolated (supply : Nat → String) (shared : SharedBridge ι) : Prop where
  vouched : ∀ index, Connected.Vouched supply (shared.seenBy index)
  distinctIds : shared.bridge.DistinctIds
  disjoint : shared.granted.Pairwise fun earlier later => earlier.names.Disjoint later.names

theorem isolated_start (settings : ι → Settings) :
    Isolated supply { controllers := fun index => { settings := settings index } } where
  vouched := fun index => Connected.vouched_start (settings index)
  distinctIds := List.nodup_nil
  disjoint := .nil

variable [DecidableEq ι]

def step (supply : Nat → String) (shared : SharedBridge ι) (index : ι) (call : Call) :
    SharedBridge ι :=
  let after := (shared.seenBy index).step supply call
  { controllers := Function.update shared.controllers index after.controller
    bridge := after.bridge
    granted := after.granted }

/-- Runs in which every descriptor passed in was returned by an earlier allocation,
of whichever controller. -/
inductive Reachable (supply : Nat → String) (origin : SharedBridge ι) : SharedBridge ι → Prop where
  | start : Reachable supply origin origin
  | step {shared : SharedBridge ι} (reachable : Reachable supply origin shared) (index : ι)
      (call : Call) (allowed : Connected.OnlyGranted (shared.seenBy index) call) :
      Reachable supply origin (shared.step supply index call)

section Invariant

variable {shared : SharedBridge ι}

theorem seenBy_step_self (shared : SharedBridge ι) (index : ι) (call : Call) :
    (shared.step supply index call).seenBy index = (shared.seenBy index).step supply call := by
  simp only [seenBy, step, Function.update_self]

theorem seenBy_step_of_ne (shared : SharedBridge ι) {index other : ι} (different : other ≠ index)
    (call : Call) :
    (shared.step supply index call).seenBy other =
      { (shared.seenBy index).step supply call with controller := shared.controllers other } := by
  simp only [seenBy, step, Function.update_of_ne different]

theorem isolated_step (distinct : Function.Injective supply) (isolated : Isolated supply shared)
    {index : ι} {call : Call} (allowed : Connected.OnlyGranted (shared.seenBy index) call) :
    Isolated supply (shared.step supply index call) := by
  have orderly := (isolated.vouched index).orderly
  have vouched := Connected.vouched_step distinct (isolated.vouched index) allowed
  refine ⟨fun other => ?_, Connected.distinctIds_step supply orderly.online
    isolated.distinctIds call, ?_⟩
  · by_cases same : other = index
    · rw [same, seenBy_step_self]
      exact vouched
    · rw [seenBy_step_of_ne shared same]
      -- The other controllers hold what they held, and the bridge mints on.
      exact vouched.withController fun id held =>
        ((isolated.vouched other).orderly.held id held).mono (orderly.minted_le_step distinct call)
  · refine List.pairwise_append.mpr ⟨isolated.disjoint, ?_, fun earlier before later added => ?_⟩
    · cases ((shared.seenBy index).answer supply call).granted? <;> simp
    · exact orderly.disjoint_of_granted distinct (Option.mem_toList.mp added) earlier before

theorem Isolated.of_reachable (distinct : Function.Injective supply) {origin : SharedBridge ι}
    (isolated : Isolated supply origin) (reachable : Reachable supply origin shared) :
    Isolated supply shared := by
  induction reachable with
  | start => exact isolated
  | step reachable index call allowed ih => exact isolated_step distinct ih allowed

end Invariant

/-- Participants are isolated: no name is in two of the descriptors granted, and a
call about one of them, by whichever controller, brings nothing to life and leaves
all that goes by other names as it was. -/
theorem participants_isolated (distinct : Function.Injective supply) {settings : ι → Settings}
    {shared : SharedBridge ι}
    (reachable : Reachable supply
      { controllers := fun index => { settings := settings index } } shared) :
    shared.granted.Pairwise (fun earlier later => earlier.names.Disjoint later.names) ∧
      ∀ index call channels, call.channels? = some channels → channels ∈ shared.granted →
        shared.bridge.Narrows channels.names (shared.step supply index call).bridge := by
  have isolated := (isolated_start settings).of_reachable distinct reachable
  refine ⟨isolated.disjoint, fun index call channels about granted => ?_⟩
  exact (isolated.vouched index).narrows isolated.distinctIds about granted

/-- Two controllers: one is handed a descriptor of the other's, and then one that
has partly expired. -/
theorem participants_isolated_of_two :
    let address : Call := .setBridge SimulatedBridge.address
    let joined := [(true, address), (false, address),
        (true, .allocate true ⟨"alice"⟩ true (Sample.fullContents 1 2)),
        (false, .allocate true ⟨"bob"⟩ true [Sample.audioContent 3])].foldl
      (fun (shared : SharedBridge Bool) (index, call) => shared.step tally index call)
      { controllers := fun _ => {} }
    let alice := joined.granted.headD {}
    let expired := joined.step tally true (.expireChannels alice)
    joined.bridge.relays.length = 4 ∧
      joined.granted.Pairwise (fun earlier later => earlier.names.Disjoint later.names) ∧
      joined.bridge.Narrows alice.names (joined.step tally false (.hold alice true)).bridge ∧
      expired.bridge.relays.length = 1 ∧
      expired.bridge.Narrows alice.names (expired.step tally true (.hold alice true)).bridge := by
  intro address joined alice expired
  have founded : Reachable tally { controllers := fun (_ : Bool) => {} } _ := .start
  have chosen := (founded.step true address (by decide)).step false address (by decide)
  have first := chosen.step true (.allocate true ⟨"alice"⟩ true (Sample.fullContents 1 2))
    (by decide)
  have second := first.step false (.allocate true ⟨"bob"⟩ true [Sample.audioContent 3])
    (by decide)
  have third := second.step true (.expireChannels alice) (by decide)
  obtain ⟨disjoint, narrows⟩ := participants_isolated tally_injective second
  obtain ⟨_, narrowsLater⟩ := participants_isolated tally_injective third
  exact ⟨by decide, disjoint, narrows false (.hold alice true) alice rfl (by decide), by decide,
    narrowsLater true (.hold alice true) alice rfl (by decide)⟩

end SharedBridge

end ConferenceFocus
