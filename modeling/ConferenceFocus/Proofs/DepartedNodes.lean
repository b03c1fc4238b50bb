import ConferenceFocus.Proofs.BridgeEvents

/-!
# Nodes that depart

A departure takes one role from a node, and discoveries can give it more than one.  What a
node holds is told by its own history: the roles that its discoveries were answered with,
and its departures, each of which takes the first role that is left.
-/

namespace ConferenceFocus.Fleet

namespace Role

/-- Some roles and one more, in their order. -/
def join (held : List Role) (role : Role) : List Role :=
  order.filter fun other => other = role ∨ other ∈ held

end Role

/-- What happens to one node. -/
inductive RoleEvent where
  | given (role : Role)
  | departed

def RoleEvent.on (held : List Role) : RoleEvent → List Role
  | given role => Role.join held role
  | departed => held.tail

/-- The roles that are left of a history. -/
def ledger (history : List RoleEvent) : List Role :=
  history.foldl RoleEvent.on []

/-- A node that was only ever given one role has that one or none. -/
theorem ledger_of_one_role {role : Role} {history : List RoleEvent}
    (only : ∀ other, .given other ∈ history → other = role) :
    ledger history = [] ∨ ledger history = [role] := by
  induction history using List.reverseRecOn with
  | nil => exact .inl rfl
  | append_singleton earlier last ih =>
      have before := ih fun other member => only other (List.mem_append_left [last] member)
      rw [ledger, List.foldl_append, List.foldl_cons, List.foldl_nil, ← ledger]
      cases last with
      | given other =>
          obtain rfl : other = role := only other (List.mem_append_right earlier List.mem_cons_self)
          right
          rcases before with vacant | same
          · rw [vacant, RoleEvent.on]
            cases other <;> rfl
          · rw [same, RoleEvent.on]
            cases other <;> rfl
      | departed =>
          left
          rcases before with vacant | same
          · rw [vacant, RoleEvent.on, List.tail_nil]
          · rw [same, RoleEvent.on, List.tail_cons]

namespace Selector

theorem isKnown_add (selector : Selector) (address other : BridgeAddress) :
    (selector.add address).isKnown other = true ↔
      other = address ∨ selector.isKnown other = true := by
  by_cases known : selector.isKnown address = true
  · rw [add, if_pos known, iff_or_self]
    rintro rfl
    exact known
  · rw [isKnown_eq, status_add (Bool.eq_false_iff.mpr known), isKnown_eq]
    by_cases same : other = address
    · subst same
      simp
    · simp [same]

theorem isKnown_remove (selector : Selector) (address other : BridgeAddress) :
    (selector.remove address).isKnown other = true ↔
      other ≠ address ∧ selector.isKnown other = true := by
  by_cases known : selector.isKnown address = true
  · rw [isKnown_eq, status_remove known, isKnown_eq]
    by_cases same : other = address
    · subst same
      simp
    · simp [same]
  · rw [remove, if_neg known, iff_and_self]
    rintro otherKnown rfl
    exact known otherKnown

end Selector

namespace Services

/-- What a sighting means for a node. -/
def roleEvent? (services : Services) (node : String) : Sighting → Option RoleEvent
  | .found other features =>
      if other = node then (services.discover other features).1.map .given else none
  | .gone other => if other = node then some .departed else none

/-- What a run of sightings means for a node. -/
def history (services : Services) (node : String) : List Sighting → List RoleEvent
  | [] => []
  | sighting :: rest =>
      (services.roleEvent? node sighting).toList ++ (services.sight sighting).history node rest

variable {services : Services} {node : String} {role : Role}

theorem holds_give (vacant : services.Vacant role) (other : String) (wanted : Role) :
    (services.give node role).Holds other wanted ↔
      (other = node ∧ wanted = role) ∨ services.Holds other wanted := by
  cases role with
  | videobridge =>
    cases wanted with
    | videobridge =>
        simp [Holds, give, Selector.isKnown_add]
    | recorder => simp [Holds, give]
    | sipGateway => simp [Holds, give]
  | recorder =>
    have free : services.recorder = none := vacant
    cases wanted with
    | videobridge => simp [Holds, give]
    | recorder => simp [Holds, give, free, eq_comm]
    | sipGateway => simp [Holds, give]
  | sipGateway =>
    have free : services.sipGateway = none := vacant
    cases wanted with
    | videobridge => simp [Holds, give]
    | recorder => simp [Holds, give]
    | sipGateway => simp [Holds, give, free, eq_comm]

theorem holds_take (held : services.Holds node role) (other : String) (wanted : Role) :
    (services.take node role).Holds other wanted ↔
      ¬ (other = node ∧ wanted = role) ∧ services.Holds other wanted := by
  cases role with
  | videobridge =>
    cases wanted with
    | videobridge => simp [Holds, take, Selector.isKnown_remove]
    | recorder => simp [Holds, take]
    | sipGateway => simp [Holds, take]
  | recorder =>
    have taken : services.recorder = some node := held
    cases wanted with
    | videobridge => simp [Holds, take]
    | recorder => simp [Holds, take, taken, eq_comm]
    | sipGateway => simp [Holds, take]
  | sipGateway =>
    have taken : services.sipGateway = some node := held
    cases wanted with
    | videobridge => simp [Holds, take]
    | recorder => simp [Holds, take]
    | sipGateway => simp [Holds, take, taken, eq_comm]

theorem roles_give_self (vacant : services.Vacant role) :
    (services.give node role).roles node = Role.join (services.roles node) role := by
  apply List.filter_congr
  intro wanted _
  simp [holds_give vacant, mem_roles]

theorem roles_give_of_ne (vacant : services.Vacant role) {other : String}
    (different : other ≠ node) : (services.give node role).roles other = services.roles other := by
  apply List.filter_congr
  intro wanted _
  simp [holds_give vacant, different]

/-- A departure takes the first role. -/
theorem roles_lose_self (services : Services) (node : String) :
    (services.lose node).roles node = (services.roles node).tail := by
  rw [lose_eq]
  cases listed : services.roles node with
  | nil => exact listed
  | cons role rest =>
      have held := holds_of_roles_eq_cons listed
      have once := nodup_roles services node
      rw [listed, List.nodup_cons] at once
      have spared (wanted : Role) : (services.take node role).Holds node wanted ↔
          wanted ≠ role ∧ services.Holds node wanted := by
        rw [holds_take held, and_iff_right rfl]
      calc
        (services.take node role).roles node =
            (services.roles node).filter fun wanted => wanted ≠ role := by
          rw [roles, roles, List.filter_filter]
          apply List.filter_congr
          intro wanted _
          simp [spared]
        _ = rest := by
          rw [listed, List.filter_cons_of_neg (by simp), List.filter_eq_self]
          intro wanted later
          exact decide_eq_true fun same => once.1 (same ▸ later)

theorem roles_lose_of_ne (services : Services) {other : String} (different : other ≠ node) :
    (services.lose node).roles other = services.roles other := by
  rw [lose_eq]
  cases listed : services.roles node with
  | nil => rfl
  | cons role rest =>
      have held := holds_of_roles_eq_cons listed
      apply List.filter_congr
      intro wanted _
      simp [holds_take held, different]

/-- What happens to a node itself tells what becomes of its roles. -/
theorem roles_sight (services : Services) (node : String) (sighting : Sighting) :
    (services.sight sighting).roles node =
      (services.roleEvent? node sighting).toList.foldl RoleEvent.on (services.roles node) := by
  cases sighting with
  | found other features =>
      rw [sight, roleEvent?]
      rcases discover_eq services other features with ignored | ⟨role, vacant, given⟩
      · simp [ignored]
      · by_cases same : other = node
        · subst same
          rw [given, roles_give_self vacant]
          simp [RoleEvent.on]
        · rw [given, roles_give_of_ne vacant (Ne.symm same), if_neg same]
          rfl
  | gone other =>
      rw [sight, roleEvent?]
      by_cases same : other = node
      · subst same
        rw [roles_lose_self, if_pos rfl]
        rfl
      · rw [roles_lose_of_ne services (Ne.symm same), if_neg same]
        rfl

theorem roles_sightings (services : Services) (node : String) (sightings : List Sighting) :
    (sightings.foldl sight services).roles node =
      (services.history node sightings).foldl RoleEvent.on (services.roles node) := by
  induction sightings generalizing services with
  | nil => rfl
  | cons sighting rest ih => rw [List.foldl_cons, ih, roles_sight, history, List.foldl_append]

def opening (preferred : Option BridgeAddress) : Services := { selector := { preferred } }

theorem roles_opening (preferred : Option BridgeAddress) (node : String) :
    (opening preferred).roles node = [] := rfl

/-- New services after some sightings. -/
def sighted (preferred : Option BridgeAddress) (sightings : List Sighting) : Services :=
  sightings.foldl sight (opening preferred)

theorem roles_sighted (preferred : Option BridgeAddress) (sightings : List Sighting)
    (node : String) : (sighted preferred sightings).roles node =
      ledger ((opening preferred).history node sightings) := by
  rw [sighted, roles_sightings, roles_opening, ledger]

/-- A node that was only ever given one role holds none once it is gone. -/
theorem roles_lose_of_one_role (preferred : Option BridgeAddress) (sightings : List Sighting)
    (only : ∀ other, .given other ∈ (opening preferred).history node sightings → other = role) :
    ((sighted preferred sightings).lose node).roles node = [] := by
  rw [roles_lose_self, roles_sighted]
  rcases ledger_of_one_role only with vacant | same
  · rw [vacant, List.tail_nil]
  · rw [same, List.tail_cons]

/-- The roles of a node follow from its own history, and its departure takes just the first
of them: it is left without a role exactly if it had one at most.  The roles of all other
nodes stay as they are. -/
theorem departure_takes_one_role (preferred : Option BridgeAddress) (sightings : List Sighting)
    (node : String) :
    (∀ other, (sighted preferred sightings).roles other =
      ledger ((opening preferred).history other sightings)) ∧
    (∀ other, ((sighted preferred sightings).lose node).roles other =
      if other = node then ((sighted preferred sightings).roles node).tail
      else (sighted preferred sightings).roles other) ∧
    (((sighted preferred sightings).lose node).roles node = [] ↔
      (ledger ((opening preferred).history node sightings)).length ≤ 1) := by
  refine ⟨roles_sighted preferred sightings, ?_, ?_⟩
  · intro other
    split
    · next same =>
        subst same
        exact roles_lose_self _ _
    · next different => exact roles_lose_of_ne _ different
  · rw [roles_lose_self, roles_sighted, ← List.length_eq_zero_iff, List.length_tail]
    omega

/-- A bridge that was found to record as well still records after it is gone. -/
theorem departed_bridge_records :
    ((sighted none
      [.found "node" Role.videobridge.requiredFeatures,
        .found "node" Role.recorder.requiredFeatures]).lose "node").recorder = some "node" := by
  decide

end Services

end ConferenceFocus.Fleet
