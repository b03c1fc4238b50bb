import ConferenceFocus.Fleet.Services

/-!
# The roles of a node

A discovery gives a node at most one role, one that is open (`discover_eq`).  A departure
takes from it the first of the roles that it has (`lose_eq`).
-/

namespace ConferenceFocus.Fleet

/-- What the discovery tells of a node. -/
inductive Sighting where
  | found (node : String) (features : List String)
  | gone (node : String)

namespace Role

def order : List Role := [.videobridge, .recorder, .sipGateway]

theorem mem_order (role : Role) : role ∈ order := by
  cases role <;> decide

theorem nodup_order : order.Nodup := by decide

end Role

namespace Services

def sight (services : Services) : Sighting → Services
  | .found node features => (services.discover node features).2
  | .gone node => services.lose node

def Holds (services : Services) (node : String) : Role → Prop
  | .videobridge => services.selector.isKnown ⟨node⟩ = true
  | .recorder => services.recorder = some node
  | .sipGateway => services.sipGateway = some node

instance {services : Services} {node : String} : DecidablePred (services.Holds node)
  | .videobridge => inferInstanceAs (Decidable (_ = true))
  | .recorder => inferInstanceAs (Decidable (services.recorder = some node))
  | .sipGateway => inferInstanceAs (Decidable (services.sipGateway = some node))

def roles (services : Services) (node : String) : List Role :=
  Role.order.filter (services.Holds node)

/-- There is always room for one more videobridge. -/
def Vacant (services : Services) : Role → Prop
  | .videobridge => True
  | .recorder => services.recorder = none
  | .sipGateway => services.sipGateway = none

def give (services : Services) (node : String) : Role → Services
  | .videobridge => { services with selector := services.selector.add ⟨node⟩ }
  | .recorder => { services with recorder := some node }
  | .sipGateway => { services with sipGateway := some node }

def take (services : Services) (node : String) : Role → Services
  | .videobridge => { services with selector := services.selector.remove ⟨node⟩ }
  | .recorder => { services with recorder := none }
  | .sipGateway => { services with sipGateway := none }

variable {services : Services} {node : String} {role : Role}

theorem mem_roles : role ∈ services.roles node ↔ services.Holds node role := by
  rw [roles, List.mem_filter, and_iff_right (Role.mem_order role), decide_eq_true_iff]

theorem nodup_roles (services : Services) (node : String) : (services.roles node).Nodup :=
  Role.nodup_order.filter _

theorem holds_of_roles_eq_cons {rest : List Role}
    (listed : services.roles node = role :: rest) : services.Holds node role := by
  rw [← mem_roles, listed]
  exact List.mem_cons_self

theorem discover_eq (services : Services) (node : String) (features : List String) :
    services.discover node features = (none, services) ∨
      ∃ role, services.Vacant role ∧
        services.discover node features = (some role, services.give node role) := by
  unfold discover
  split
  · exact .inr ⟨.videobridge, trivial, rfl⟩
  · split
    · next suited =>
        have free := Option.isNone_iff_eq_none.mp (Bool.and_eq_true_iff.mp suited).1
        exact .inr ⟨.recorder, free, rfl⟩
    · split
      · next suited =>
          have free := Option.isNone_iff_eq_none.mp (Bool.and_eq_true_iff.mp suited).1
          exact .inr ⟨.sipGateway, free, rfl⟩
      · exact .inl rfl

theorem lose_eq (services : Services) (node : String) :
    services.lose node = (services.roles node).head?.elim services (services.take node) := by
  unfold lose
  split
  · next bridge => simp [roles, Role.order, Holds, bridge, take]
  · next bridge =>
      split
      · next recorder => simp [roles, Role.order, Holds, bridge, recorder, take]
      · next recorder =>
          split
          · next gateway => simp [roles, Role.order, Holds, bridge, recorder, gateway, take]
          · next gateway => simp [roles, Role.order, Holds, bridge, recorder, gateway]

end Services

end ConferenceFocus.Fleet
