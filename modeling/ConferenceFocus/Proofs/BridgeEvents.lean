import Mathlib.Data.Set.Card
import Mathlib.Logic.Function.Basic
import ConferenceFocus.Proofs.NodeRoles

/-!
# Bridge events and the bridges that work

Whoever follows the events from the start knows which bridges work, and the reported
number is how many they are.  A call on a selector leaves the status of every bridge as it
is, or changes that of one bridge and says so: `Turn` has the cases, and what holds over a
run follows from them by induction.
-/

namespace ConferenceFocus

namespace Keyed

variable {α κ : Type} [DecidableEq κ] [Keyed α κ]

theorem find?_eq_some_iff {entries : List α} (distinct : (entries.map key).Nodup) {wanted : κ}
    {entry : α} : find? entries wanted = some entry ↔ entry ∈ entries ∧ key entry = wanted := by
  constructor
  · intro found
    exact ⟨List.mem_of_find?_eq_some found, by simpa using List.find?_some found⟩
  · rintro ⟨member, rfl⟩
    have taken : (find? entries (key entry)).isSome = true := by
      rw [isSome_find?]
      exact holds_iff.mpr ⟨entry, member, rfl⟩
    obtain ⟨other, found⟩ := Option.isSome_iff_exists.mp taken
    have sameKey : key other = key entry := by simpa using List.find?_some found
    have listed := List.mem_of_find?_eq_some found
    rw [found, List.inj_on_of_nodup_map distinct listed member sameKey]

end Keyed

namespace Fleet

inductive SelectorCall where
  | add (address : BridgeAddress)
  | remove (address : BridgeAddress)
  | setOperational (address : BridgeAddress) (operational : Bool)
  | setConferences (address : BridgeAddress) (count : Nat)

inductive FleetCall where
  | sighting (sighting : Sighting)
  | selector (call : SelectorCall)

/-- A set of bridges after an event. -/
def BridgeEvent.on (bridges : Set BridgeAddress) : BridgeEvent → Set BridgeAddress
  | up address => insert address bridges
  | down address => bridges \ {address}

/-- The bridges that work by all that was published. -/
def mirror (events : List BridgeEvent) : Set BridgeAddress :=
  events.foldl BridgeEvent.on ∅

theorem mirror_append (events : List BridgeEvent) (event : BridgeEvent) :
    mirror (events ++ [event]) = event.on (mirror events) := by
  rw [mirror, List.foldl_append, List.foldl_cons, List.foldl_nil, mirror]

namespace Selector

def perform (selector : Selector) : SelectorCall → Selector
  | .add address => selector.add address
  | .remove address => selector.remove address
  | .setOperational address operational => selector.setOperational address operational
  | .setConferences address count => selector.setConferences address count

def operational (selector : Selector) : Set BridgeAddress :=
  {address | selector.isOperational address = true}

/-- Whether the bridge at an address works, if it is known. -/
def status (selector : Selector) (address : BridgeAddress) : Option Bool :=
  (selector.find? address).map (·.operational)

variable {before after : Selector} {address : BridgeAddress}

theorem isKnown_eq (selector : Selector) (address : BridgeAddress) :
    selector.isKnown address = (selector.status address).isSome := by
  rw [status, Option.isSome_map, isKnown]

theorem mem_operational : address ∈ before.operational ↔ before.status address = some true := by
  have unfolded : address ∈ before.operational ↔
      (before.find? address).any (·.operational) = true := Iff.rfl
  rw [unfolded, Option.any_eq_true, status, Option.map_eq_some_iff]

section Status

theorem bridges_add (selector : Selector) (address : BridgeAddress) :
    (selector.add address).bridges =
      Keyed.append selector.bridges ({ address } : KnownBridge) := by
  have taken : selector.isKnown address = Keyed.holds selector.bridges address :=
    Keyed.isSome_find? selector.bridges address
  by_cases known : selector.isKnown address = true
  · rw [add, if_pos known]
    rw [taken] at known
    exact (Keyed.append_of_holds known).symm
  · rw [add, if_neg known, publish]
    rw [taken] at known
    exact (Keyed.append_of_not_holds known).symm

theorem status_add (unknown : before.isKnown address = false) :
    (before.add address).status = Function.update before.status address (some true) := by
  funext other
  rw [status, find?, bridges_add, Keyed.find?_append]
  by_cases same : other = address
  · subst same
    have absent : Keyed.find? before.bridges other = none := by
      rwa [isKnown, find?, Option.isSome_eq_false_iff, Option.isNone_iff_eq_none] at unknown
    have ownKey : Keyed.key ({ address := other } : KnownBridge) = other := rfl
    rw [Function.update_self, absent, Option.none_or, if_pos ownKey, Option.map_some]
  · have otherKey : Keyed.key ({ address } : KnownBridge) ≠ other := Ne.symm same
    rw [Function.update_of_ne same, if_neg otherKey, Option.or_none, status, find?]

theorem status_remove (known : before.isKnown address = true) :
    (before.remove address).status = Function.update before.status address none := by
  have erased : (before.remove address).bridges = Keyed.erase before.bridges address := by
    rw [remove, if_pos known, publish]
  funext other
  rw [status, find?, erased]
  by_cases same : other = address
  · subst same
    rw [Function.update_self, Keyed.find?_erase_self, Option.map_none]
  · rw [Function.update_of_ne same, Keyed.find?_erase_of_ne _ same, status, find?]

theorem status_setOperational {operational : Bool}
    (changes : before.status address = some !operational) :
    (before.setOperational address operational).status =
      Function.update before.status address (some operational) := by
  obtain ⟨bridge, found, opposite⟩ := Option.map_eq_some_iff.mp changes
  have adjusted : (before.setOperational address operational).bridges =
      Keyed.adjust before.bridges address fun known => { known with operational } := by
    rw [setOperational, found]
    have differs : ¬ bridge.operational = operational := by simp [opposite]
    simp only [if_neg differs, publish]
  funext other
  have looked := Keyed.find?_adjust before.bridges address
    (fun known => { known with operational }) (fun _ => rfl) other
  rw [status, find?, adjusted, looked]
  by_cases same : other = address
  · subst same
    have listed : Keyed.find? before.bridges other = some bridge := found
    rw [if_pos rfl, listed, Function.update_self, Option.map_some, Option.map_some]
  · rw [if_neg same, Function.update_of_ne same, status, find?]

theorem status_setConferences (count : Nat) :
    (before.setConferences address count).status = before.status := by
  funext other
  have looked := Keyed.find?_adjust before.bridges address
    (fun known => { known with conferences := count }) (fun _ => rfl) other
  rw [status, find?, setConferences, looked]
  split
  · rw [Option.map_map, status, find?]
    rfl
  · rw [status, find?]

theorem operationalCount_setConferences (count : Nat) :
    (before.setConferences address count).operationalCount = before.operationalCount := by
  have counted (selector : Selector) : selector.operationalCount =
      (selector.bridges.map (·.operational)).count true := by
    rw [operationalCount, ← List.countP_eq_length_filter, List.count, List.countP_map]
    congr 1
    funext bridge
    exact (beq_true bridge.operational).symm
  rw [counted, counted, setConferences]
  exact congrArg (List.count true) (Keyed.map_adjust _ _ fun _ => rfl)

end Status

/-- What a call can do. -/
inductive Turn (before after : Selector) : Prop where
  | quiet (events : after.events = before.events) (reported : after.reported = before.reported)
      (count : after.operationalCount = before.operationalCount)
      (status : after.status = before.status)
  | up (address : BridgeAddress) (events : after.events = before.events ++ [.up address])
      (reported : after.reported = some after.operationalCount)
      (idle : before.status address ≠ some true)
      (status : after.status = Function.update before.status address (some true))
  /-- A bridge is noted as not working, or is forgotten.  One that is forgotten goes down,
  even if it was down before. -/
  | down (address : BridgeAddress) (fate : Option Bool)
      (events : after.events = before.events ++ [.down address])
      (reported : after.reported = some after.operationalCount)
      (idle : fate ≠ some true) (changes : before.status address ≠ fate)
      (known : before.status address ≠ none)
      (status : after.status = Function.update before.status address fate)

theorem Turn.same (selector : Selector) : selector.Turn selector :=
  .quiet rfl rfl rfl rfl

theorem turn_add (selector : Selector) (address : BridgeAddress) :
    selector.Turn (selector.add address) := by
  by_cases known : selector.isKnown address = true
  · rw [add, if_pos known]
    exact .same selector
  · have unknown := Bool.eq_false_iff.mpr known
    have idle : selector.status address ≠ some true := by
      rw [isKnown_eq] at unknown
      intro works
      rw [works] at unknown
      cases unknown
    apply Turn.up address ?_ ?_ idle (status_add unknown)
    · rw [add, if_neg known, publish]
    · rw [add, if_neg known]
      rfl

theorem turn_remove (selector : Selector) (address : BridgeAddress) :
    selector.Turn (selector.remove address) := by
  by_cases known : selector.isKnown address = true
  · have listed : selector.status address ≠ none := by
      rw [isKnown_eq, Option.isSome_iff_ne_none] at known
      exact known
    apply Turn.down address none ?_ ?_ nofun listed listed (status_remove known)
    · rw [remove, if_pos known, publish]
    · rw [remove, if_pos known]
      rfl
  · rw [remove, if_neg known]
    exact .same selector

theorem turn_setOperational (selector : Selector) (address : BridgeAddress)
    (operational : Bool) : selector.Turn (selector.setOperational address operational) := by
  cases found : selector.find? address with
  | none =>
      rw [setOperational, found]
      exact .same selector
  | some bridge =>
      by_cases same : bridge.operational = operational
      · simp only [setOperational, found, if_pos same]
        exact .same selector
      · have was : selector.status address = some !operational := by
          rw [status, found, Option.map_some, Bool.eq_not.mpr same]
        have moved := status_setOperational was
        cases operational with
        | true =>
            apply Turn.up address ?_ ?_ (by simp [was]) moved
            · simp only [setOperational, found, if_neg same, publish, if_pos]
            · simp only [setOperational, found, if_neg same]
              rfl
        | false =>
            apply Turn.down address (some false) ?_ ?_ nofun (by simp [was]) (by simp [was]) moved
            · simp [setOperational, found, same, publish]
            · simp only [setOperational, found, if_neg same]
              rfl

theorem turn_setConferences (selector : Selector) (address : BridgeAddress) (count : Nat) :
    selector.Turn (selector.setConferences address count) :=
  .quiet rfl rfl (operationalCount_setConferences count) (status_setConferences count)

theorem turn_perform (selector : Selector) (call : SelectorCall) :
    selector.Turn (selector.perform call) := by
  cases call with
  | add address => exact turn_add selector address
  | remove address => exact turn_remove selector address
  | setOperational address operational => exact turn_setOperational selector address operational
  | setConferences address count => exact turn_setConferences selector address count

section Events

theorem operational_update_true
    (status : after.status = Function.update before.status address (some true)) :
    after.operational = insert address before.operational := by
  ext other
  rw [mem_operational, status, Set.mem_insert_iff, mem_operational]
  by_cases same : other = address
  · subst same
    simp
  · simp [same]

theorem operational_update_of_ne {fate : Option Bool} (idle : fate ≠ some true)
    (status : after.status = Function.update before.status address fate) :
    after.operational = before.operational \ {address} := by
  ext other
  rw [mem_operational, status, Set.mem_sdiff, mem_operational]
  by_cases same : other = address
  · subst same
    simp [idle]
  · simp [same]

theorem operational_congr (status : after.status = before.status) :
    after.operational = before.operational := by
  ext other
  rw [mem_operational, status, mem_operational]

theorem Turn.mirror (turn : before.Turn after)
    (mirrored : mirror before.events = before.operational) :
    mirror after.events = after.operational := by
  cases turn with
  | quiet events reported count status => rw [events, mirrored, operational_congr status]
  | up address events reported idle status =>
      rw [events, mirror_append, mirrored, operational_update_true status, BridgeEvent.on]
  | down address fate events reported idle changes known status =>
      rw [events, mirror_append, mirrored, operational_update_of_ne idle status, BridgeEvent.on]

/-- What was last reported is what there is, from the first event on. -/
def Reports (selector : Selector) : Prop :=
  selector.reported = if selector.events = [] then none else some selector.operationalCount

theorem Turn.reports (turn : before.Turn after) (reports : before.Reports) : after.Reports := by
  cases turn with
  | quiet events reported count status => rw [Reports, reported, events, count, reports]
  | up address events reported idle status => rw [Reports, reported, events, if_neg (by simp)]
  | down address fate events reported idle changes known status =>
      rw [Reports, reported, events, if_neg (by simp)]

/-- What a call publishes: an event at most, `up` just when a bridge comes to work, `down`
just when one that worked no longer does or a known one is forgotten. -/
structure Publishes (before after : Selector) (published : List BridgeEvent) : Prop where
  appended : after.events = before.events ++ published
  single : published.length ≤ 1
  up : ∀ address, .up address ∈ published ↔
    address ∉ before.operational ∧ address ∈ after.operational
  down : ∀ address, .down address ∈ published ↔ address ∉ after.operational ∧
    (address ∈ before.operational ∨
      before.isKnown address = true ∧ after.isKnown address = false)

theorem comes_iff : address ∉ before.operational ∧ address ∈ after.operational ↔
    before.status address ≠ some true ∧ after.status address = some true := by
  rw [mem_operational, mem_operational]

theorem goes_iff : (address ∉ after.operational ∧ (address ∈ before.operational ∨
      before.isKnown address = true ∧ after.isKnown address = false)) ↔
    before.status address ≠ none ∧ after.status address ≠ some true ∧
      before.status address ≠ after.status address := by
  have cases : ∀ was now : Option Bool,
      now ≠ some true ∧ (was = some true ∨ was.isSome = true ∧ now.isSome = false) ↔
        was ≠ none ∧ now ≠ some true ∧ was ≠ now := by decide
  rw [mem_operational, mem_operational, isKnown_eq, isKnown_eq]
  exact cases (before.status address) (after.status address)

theorem Turn.publishes (turn : before.Turn after) :
    ∃ published, before.Publishes after published := by
  cases turn with
  | quiet events reported count status =>
      refine ⟨[], by rw [events, List.append_nil], Nat.zero_le 1, ?_, ?_⟩
      · intro other
        rw [comes_iff, status]
        simp
      · intro other
        rw [goes_iff, status]
        simp
  | up address events reported idle status =>
      refine ⟨[.up address], events, Nat.le_refl 1, ?_, ?_⟩
      · intro other
        rw [comes_iff, status, List.mem_singleton, BridgeEvent.up.injEq]
        by_cases same : other = address
        · subst same
          simp [idle]
        · simp [same]
      · intro other
        rw [goes_iff, status]
        by_cases same : other = address
        · simp [same]
        · simp [same]
  | down address fate events reported idle changes known status =>
      refine ⟨[.down address], events, Nat.le_refl 1, ?_, ?_⟩
      · intro other
        rw [comes_iff, status]
        by_cases same : other = address
        · simp [same, idle]
        · simp [same]
      · intro other
        rw [goes_iff, status, List.mem_singleton, BridgeEvent.down.injEq]
        by_cases same : other = address
        · subst same
          simp [known, idle, changes]
        · simp [same]

end Events

section Count

def Distinct (selector : Selector) : Prop :=
  (selector.bridges.map (·.address)).Nodup

theorem distinct_perform (distinct : before.Distinct) (call : SelectorCall) :
    (before.perform call).Distinct := by
  cases call with
  | add address =>
      rw [Distinct, perform, bridges_add]
      exact Keyed.nodup_append distinct ({ address } : KnownBridge)
  | remove address =>
      simp only [perform, remove]
      split
      · exact Keyed.nodup_erase distinct address
      · exact distinct
  | setOperational address operational =>
      simp only [perform, setOperational]
      split
      · exact distinct
      · split
        · exact distinct
        · exact Keyed.nodup_adjust distinct _ fun _ => rfl
  | setConferences address count =>
      exact Keyed.nodup_adjust distinct _ fun _ => rfl

theorem operationalCount_eq_ncard (distinct : before.Distinct) :
    before.operationalCount = before.operational.ncard := by
  let working := (before.bridges.filter (·.operational)).map (·.address)
  have once : working.Nodup :=
    distinct.sublist (List.Sublist.map _ List.filter_sublist)
  have listed : before.operational = ↑working.toFinset := by
    ext address
    simp only [mem_operational, status, find?, Option.map_eq_some_iff,
      Keyed.find?_eq_some_iff distinct, List.coe_toFinset, working, List.mem_map,
      List.mem_filter]
    constructor
    · rintro ⟨bridge, ⟨member, located⟩, works⟩
      exact ⟨bridge, ⟨member, works⟩, located⟩
    · rintro ⟨bridge, ⟨member, works⟩, located⟩
      exact ⟨bridge, ⟨member, located⟩, works⟩
  rw [listed, Set.ncard_coe_finset, List.toFinset_card_of_nodup once, List.length_map,
    operationalCount]

end Count

/-- What every call keeps. -/
structure Followed (selector : Selector) : Prop where
  mirrored : mirror selector.events = selector.operational
  reports : selector.Reports
  distinct : selector.Distinct

theorem Followed.new (preferred : Option BridgeAddress) : Followed { preferred } where
  mirrored := Set.ext fun _ => iff_of_false not_false nofun
  reports := rfl
  distinct := List.nodup_nil

theorem Followed.perform (followed : before.Followed) (call : SelectorCall) :
    (before.perform call).Followed where
  mirrored := (turn_perform before call).mirror followed.mirrored
  reports := (turn_perform before call).reports followed.reports
  distinct := distinct_perform followed.distinct call

end Selector

namespace Services

def perform (services : Services) : FleetCall → Services
  | .sighting sighting => services.sight sighting
  | .selector call => { services with selector := services.selector.perform call }

/-- New services after some calls. -/
def after (preferred : Option BridgeAddress) (calls : List FleetCall) : Services :=
  calls.foldl perform { selector := { preferred } }

theorem selector_sight (services : Services) (sighting : Sighting) :
    (services.sight sighting).selector = services.selector ∨
      ∃ call, (services.sight sighting).selector = services.selector.perform call := by
  cases sighting with
  | found node features =>
      rw [sight]
      rcases discover_eq services node features with ignored | ⟨role, -, given⟩
      · rw [ignored]
        exact .inl rfl
      · rw [given]
        cases role with
        | videobridge => exact .inr ⟨.add ⟨node⟩, rfl⟩
        | recorder => exact .inl rfl
        | sipGateway => exact .inl rfl
  | gone node =>
      rw [sight, lose_eq]
      cases services.roles node with
      | nil => exact .inl rfl
      | cons role rest =>
          cases role with
          | videobridge => exact .inr ⟨.remove ⟨node⟩, rfl⟩
          | recorder => exact .inl rfl
          | sipGateway => exact .inl rfl

theorem selector_perform (services : Services) (call : FleetCall) :
    (services.perform call).selector = services.selector ∨
      ∃ made, (services.perform call).selector = services.selector.perform made := by
  cases call with
  | sighting sighting => exact selector_sight services sighting
  | selector call => exact .inr ⟨call, rfl⟩

theorem followed_perform {services : Services} (followed : services.selector.Followed)
    (call : FleetCall) : (services.perform call).selector.Followed := by
  rcases selector_perform services call with kept | ⟨made, performed⟩
  · rw [kept]
    exact followed
  · rw [performed]
    exact followed.perform made

theorem followed_after (preferred : Option BridgeAddress) (calls : List FleetCall) :
    (after preferred calls).selector.Followed := by
  induction calls using List.reverseRecOn with
  | nil => exact .new preferred
  | append_singleton calls call ih =>
      rw [after, List.foldl_append]
      exact followed_perform ih call

theorem publishes_perform (services : Services) (call : FleetCall) :
    ∃ published, services.selector.Publishes (services.perform call).selector published := by
  rcases selector_perform services call with kept | ⟨made, performed⟩
  · rw [kept]
    exact (Selector.Turn.same services.selector).publishes
  · rw [performed]
    exact (Selector.turn_perform services.selector made).publishes

/-- Whoever saw nothing but the events knows which bridges work, whatever the calls were,
and from the first event on the last report is how many these are.  A further call
publishes one event at most, which says what the call has changed. -/
theorem events_tell_operational (preferred : Option BridgeAddress) (calls : List FleetCall) :
    mirror (after preferred calls).selector.events =
        (after preferred calls).selector.operational ∧
      (after preferred calls).selector.Reports ∧
      (after preferred calls).selector.operationalCount =
        (after preferred calls).selector.operational.ncard ∧
      ∀ call, ∃ published, (after preferred calls).selector.Publishes
        ((after preferred calls).perform call).selector published := by
  have followed := followed_after preferred calls
  refine ⟨followed.mirrored, followed.reports, ?_, ?_⟩
  · exact Selector.operationalCount_eq_ncard followed.distinct
  · exact publishes_perform (after preferred calls)

end Services

end Fleet

end ConferenceFocus
