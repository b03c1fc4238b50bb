import Mathlib.Data.List.Nodup
import ConferenceFocus.Proofs.ParticipantStreams
import ConferenceFocus.Proofs.RosterActivity

/-!
# What the peers of members have heard

A `Signaling` sets beside a roster the items that the peer of each member has
been told of.  A peer starts from the streams of all others at the moment its
member joins; from then on every update addressed to the member adds items or
takes some away, in the order in which updates are returned.
-/

namespace ConferenceFocus

def ChangeKind.on : ChangeKind → Set StreamItem → Set StreamItem → Set StreamItem
  | .add, items, change => items ∪ change
  | .remove, items, change => items \ change

theorem ChangeKind.on_empty (kind : ChangeKind) (items : Set StreamItem) :
    kind.on items ∅ = items := by
  cases kind <;> simp [on]

structure Signaling where
  roster : Roster := {}
  /-- The items that the peer of each member has heard of. -/
  heard : EndpointId → Set StreamItem := fun _ => ∅

namespace Signaling

def deliver (heard : EndpointId → Set StreamItem) (update : SourceUpdate) :
    EndpointId → Set StreamItem :=
  Function.update heard update.target
    (update.kind.on (heard update.target) update.streams.items)

/-- A peer whose member joins hears of the streams of all others. -/
def welcome (signaling : Signaling) : RosterCall → EndpointId → Set StreamItem
  | .add member =>
      Function.update signaling.heard member.endpoint
        (signaling.roster.streamsExcept member.endpoint).items
  | _ => signaling.heard

/-- Carries a call out and delivers its updates; a call that fails changes nothing. -/
def step (signaling : Signaling) (call : RosterCall) : Signaling :=
  match signaling.roster.handle call with
  | .error _ => signaling
  | .ok result =>
      { roster := result.2, heard := result.1.foldl deliver (signaling.welcome call) }

/-- What runs lead to in which every call is permitted at its moment. -/
inductive Reachable (permitted : Roster → RosterCall → Prop) : Signaling → Prop where
  | start : Reachable permitted {}
  | step {signaling : Signaling} (reachable : Reachable permitted signaling)
      (call : RosterCall) (allowed : permitted signaling.roster call) :
      Reachable permitted (signaling.step call)

theorem foldl_deliver_apply (updates : List SourceUpdate)
    (heard : EndpointId → Set StreamItem) (endpoint : EndpointId) :
    updates.foldl deliver heard endpoint =
      (updates.filter (·.target = endpoint)).foldl
        (fun items update => update.kind.on items update.streams.items) (heard endpoint) := by
  induction updates generalizing heard with
  | nil => rfl
  | cons update rest ih =>
      rw [List.foldl_cons, ih]
      by_cases addressed : update.target = endpoint
      · subst addressed
        simp [deliver]
      · simp [deliver, addressed, Function.update_of_ne (Ne.symm addressed)]

end Signaling

namespace Roster

def Distinct (roster : Roster) : Prop :=
  (roster.members.map (·.endpoint)).Nodup

def held (roster : Roster) (endpoint : EndpointId) : Set StreamItem :=
  {item | ∃ member ∈ roster.members, member.endpoint = endpoint ∧ item ∈ member.own.items}

instance (roster : Roster) (endpoint : EndpointId) (item : StreamItem) :
    Decidable (item ∈ roster.held endpoint) :=
  inferInstanceAs (Decidable (∃ member ∈ roster.members,
    member.endpoint = endpoint ∧ item ∈ member.own.items))

def heldElsewhere (roster : Roster) (endpoint : EndpointId) : Set StreamItem :=
  {item | ∃ other, other ≠ endpoint ∧ item ∈ roster.held other}

theorem items_streamsExcept (roster : Roster) (endpoint : EndpointId) :
    (roster.streamsExcept endpoint).items = roster.heldElsewhere endpoint := by
  ext item
  simp only [streamsExcept, Streams.mem_items_foldl_union, Streams.items_empty,
    Set.mem_empty_iff_false, false_or, List.mem_map, List.mem_filter, heldElsewhere, held,
    Set.mem_ofPred_eq, decide_eq_true_eq]
  constructor
  · intro membership
    obtain ⟨streams, ⟨member, ⟨present, other⟩, rfl⟩, named⟩ := membership
    exact ⟨member.endpoint, other, member, present, rfl, named⟩
  · intro membership
    obtain ⟨other, different, member, present, rfl, named⟩ := membership
    exact ⟨member.own, ⟨member, ⟨present, different⟩, rfl⟩, named⟩

theorem Distinct.eq_of_endpoint_eq {roster : Roster} (distinct : roster.Distinct)
    {left right : Participant} (leftPresent : left ∈ roster.members)
    (rightPresent : right ∈ roster.members) (same : left.endpoint = right.endpoint) :
    left = right :=
  List.inj_on_of_nodup_map distinct leftPresent rightPresent same

theorem Distinct.filter_endpoint {roster : Roster} (distinct : roster.Distinct)
    {member : Participant} (present : member ∈ roster.members) :
    roster.members.filter (·.endpoint = member.endpoint) = [member] := by
  have onlyMember : ∀ other,
      other ∈ roster.members.filter (·.endpoint = member.endpoint) ↔ other ∈ [member] := by
    intro other
    rw [List.mem_filter, List.mem_singleton, decide_eq_true_eq]
    constructor
    · intro membership
      obtain ⟨otherPresent, same⟩ := membership
      exact distinct.eq_of_endpoint_eq otherPresent present same
    · rintro rfl
      exact ⟨present, rfl⟩
  have permutation := (List.perm_ext_iff_of_nodup
    (distinct.of_map.filter _) (List.nodup_singleton member)).mpr onlyMember
  exact List.perm_singleton.mp permutation

theorem Distinct.held_eq {roster : Roster} (distinct : roster.Distinct)
    {member : Participant} (present : member ∈ roster.members) :
    roster.held member.endpoint = member.own.items := by
  ext item
  constructor
  · intro membership
    obtain ⟨other, otherPresent, same, named⟩ := membership
    rwa [← distinct.eq_of_endpoint_eq otherPresent present same]
  · intro named
    exact ⟨member, present, rfl, named⟩

section Route

variable (roster : Roster) (origin : EndpointId) (kind : ChangeKind) (streams : Streams)

theorem members_route :
    (roster.route origin kind streams).2.members =
      roster.members.map (·.reached origin kind streams) := by
  by_cases empty : streams.isEmpty = true
  · simp [route, empty, Participant.reached]
  · simp [route, empty, Participant.reached]

@[simp] theorem endpoint_reached (member : Participant) :
    (member.reached origin kind streams).endpoint = member.endpoint := by
  unfold Participant.reached Participant.park
  cases kind <;> (split <;> [rfl; (split <;> rfl)])

@[simp] theorem own_reached (member : Participant) :
    (member.reached origin kind streams).own = member.own := by
  unfold Participant.reached Participant.park
  cases kind <;> (split <;> [rfl; (split <;> rfl)])

theorem target_of_update? {kind : ChangeKind} {streams : Streams} {member : Participant}
    {update : SourceUpdate} (told : member.update? kind streams = some update) :
    update.target = member.endpoint := by
  obtain ⟨session, _, rfl⟩ := Option.map_eq_some_iff.mp told
  rfl

theorem filter_target_update? (members : List Participant) (endpoint : EndpointId) :
    (members.filterMap (·.update? kind streams)).filter (·.target = endpoint) =
      (members.filter (·.endpoint = endpoint)).filterMap (·.update? kind streams) := by
  induction members with
  | nil => rfl
  | cons member rest ih =>
      cases told : member.update? kind streams with
      | none =>
          by_cases named : member.endpoint = endpoint <;> simp [told, named, ih]
      | some update =>
          have target : update.target = member.endpoint := target_of_update? told
          by_cases named : member.endpoint = endpoint <;> simp [told, target, named, ih]

theorem held_route : (roster.route origin kind streams).2.held = roster.held := by
  funext endpoint
  ext item
  simp [held, members_route]

theorem heldElsewhere_route :
    (roster.route origin kind streams).2.heldElsewhere = roster.heldElsewhere := by
  funext endpoint
  rw [heldElsewhere, held_route]
  rfl

theorem distinct_route (distinct : roster.Distinct) :
    (roster.route origin kind streams).2.Distinct := by
  simpa [Distinct, members_route, Function.comp_def] using distinct

/-- The updates of a change that are addressed to one member. -/
theorem filter_target_route (distinct : roster.Distinct) {member : Participant}
    (present : member ∈ roster.members) (different : member.endpoint ≠ origin)
    (something : streams.isEmpty = false) :
    (roster.route origin kind streams).1.filter (·.target = member.endpoint) =
      (member.update? kind streams).toList := by
  have onlyMember : (roster.members.filter (·.endpoint ≠ origin)).filter
      (·.endpoint = member.endpoint) = [member] := by
    rw [List.filter_filter, ← distinct.filter_endpoint present]
    refine List.filter_congr fun other _ => ?_
    by_cases same : other.endpoint = member.endpoint <;> simp [same, different]
  simp only [route, something, Bool.false_eq_true, if_false, filter_target_update?, onlyMember]
  cases told : member.update? kind streams <;> simp [told]

/-- A peer hears of a change made by another member if it has a session. -/
theorem deliver_route (distinct : roster.Distinct) {member : Participant}
    (present : member ∈ roster.members) (heard : EndpointId → Set StreamItem) :
    (roster.route origin kind streams).1.foldl Signaling.deliver heard member.endpoint =
      if member.endpoint ≠ origin ∧ member.hasSession then
        kind.on (heard member.endpoint) streams.items
      else heard member.endpoint := by
  rw [Signaling.foldl_deliver_apply]
  cases empty : streams.isEmpty with
  | true =>
      have nothing : streams.items = ∅ := Streams.isEmpty_iff_items.mp empty
      simp [route, empty, nothing, ChangeKind.on_empty]
  | false =>
      by_cases own : member.endpoint = origin
      · have noMember : (roster.members.filter (·.endpoint ≠ origin)).filter
            (·.endpoint = member.endpoint) = [] := by
          simp [own]
        simp only [route, empty, Bool.false_eq_true, if_false, filter_target_update?, noMember]
        simp [own]
      · rw [filter_target_route roster origin kind streams distinct present own empty]
        cases session : member.session <;>
          simp [Participant.update?, Participant.hasSession, session, own]

end Route

section Membership

variable {roster : Roster}

theorem mem_replace {changed other : Participant} :
    other ∈ (roster.replace changed).members ↔
      (other ∈ roster.members ∧ other.endpoint ≠ changed.endpoint) ∨
        (other = changed ∧ ∃ member ∈ roster.members, member.endpoint = changed.endpoint) := by
  simp only [replace, List.mem_map]
  constructor
  · intro membership
    obtain ⟨member, present, rfl⟩ := membership
    by_cases same : member.endpoint = changed.endpoint
    · exact .inr ⟨if_pos same, member, present, same⟩
    · rw [if_neg same]
      exact .inl ⟨present, same⟩
  · intro membership
    rcases membership with ⟨present, different⟩ | ⟨rfl, member, present, same⟩
    · exact ⟨other, present, if_neg different⟩
    · exact ⟨member, present, if_pos same⟩

theorem names_replace (changed : Participant) :
    (roster.replace changed).members.map (·.endpoint) = roster.members.map (·.endpoint) := by
  rw [replace, List.map_map]
  refine List.map_congr_left fun member _ => ?_
  by_cases same : member.endpoint = changed.endpoint <;> simp [same]

theorem distinct_replace (distinct : roster.Distinct) (changed : Participant) :
    (roster.replace changed).Distinct := by
  rwa [Distinct, names_replace]

theorem held_replace {member : Participant} (present : member ∈ roster.members)
    (changed : Participant) (same : changed.endpoint = member.endpoint) :
    (roster.replace changed).held =
      Function.update roster.held changed.endpoint changed.own.items := by
  funext endpoint
  ext item
  by_cases named : endpoint = changed.endpoint
  · subst named
    simp only [held, mem_replace, Function.update_self, Set.mem_ofPred_eq]
    constructor
    · intro membership
      rcases membership with ⟨other, ⟨_, different⟩ | ⟨rfl, _⟩, sameName, found⟩
      · exact absurd sameName different
      · exact found
    · intro found
      exact ⟨changed, .inr ⟨rfl, member, present, same.symm⟩, rfl, found⟩
  · simp only [held, mem_replace, Function.update_of_ne named, Set.mem_ofPred_eq]
    constructor
    · intro membership
      rcases membership with ⟨other, ⟨otherPresent, _⟩ | ⟨rfl, _⟩, rfl, found⟩
      · exact ⟨other, otherPresent, rfl, found⟩
      · exact absurd rfl named
    · intro membership
      obtain ⟨other, otherPresent, rfl, found⟩ := membership
      exact ⟨other, .inl ⟨otherPresent, named⟩, rfl, found⟩

theorem distinct_without (distinct : roster.Distinct) (endpoint : EndpointId) :
    (roster.without endpoint).Distinct :=
  distinct.sublist (List.Sublist.map _ List.filter_sublist)

theorem held_without (endpoint : EndpointId) :
    (roster.without endpoint).held = Function.update roster.held endpoint ∅ := by
  funext other
  ext item
  by_cases named : other = endpoint
  · subst named
    simp only [held, without, List.mem_filter, decide_eq_true_eq, Function.update_self]
    constructor
    · intro membership
      obtain ⟨member, ⟨_, different⟩, same, _⟩ := membership
      exact absurd same different
    · exact False.elim
  · simp only [held, without, List.mem_filter, decide_eq_true_eq,
      Function.update_of_ne named, Set.mem_ofPred_eq]
    constructor
    · intro membership
      obtain ⟨member, ⟨present, _⟩, rfl, found⟩ := membership
      exact ⟨member, present, rfl, found⟩
    · intro membership
      obtain ⟨member, present, rfl, found⟩ := membership
      exact ⟨member, ⟨present, named⟩, rfl, found⟩

theorem distinct_append (distinct : roster.Distinct) {member : Participant}
    (free : ∀ other ∈ roster.members, other.endpoint ≠ member.endpoint) :
    (⟨roster.members ++ [member]⟩ : Roster).Distinct := by
  simp only [Distinct, List.map_append, List.map_cons, List.map_nil]
  refine List.nodup_append.mpr ⟨distinct, List.nodup_singleton _, ?_⟩
  intro left leftNamed right rightNamed
  obtain ⟨other, present, rfl⟩ := List.mem_map.mp leftNamed
  rw [List.mem_singleton.mp rightNamed]
  exact free other present

theorem held_append {member : Participant} (bare : member.own.items = ∅) :
    (⟨roster.members ++ [member]⟩ : Roster).held = roster.held := by
  funext endpoint
  ext item
  simp [held, or_and_right, exists_or, bare]

end Membership

end Roster

namespace Participant

/-- After a flush both queues are empty; of the rest only the session has changed. -/
theorem flush_spec (member : Participant) (session : SessionHandle) :
    (member.flush session).2.endpoint = member.endpoint ∧
      (member.flush session).2.own = member.own ∧
      (member.flush session).2.pendingAdd.items = ∅ ∧
      (member.flush session).2.pendingRemove.items = ∅ := by
  by_cases noAdd : member.pendingAdd.isEmpty = true <;>
    by_cases noRemove : member.pendingRemove.isEmpty = true <;>
      simp [flush, takePending, pending, clearPending, noAdd, noRemove,
        Streams.isEmpty_iff_items.mp]

/-- The peer of a flushed member hears of what waited to be added, and then of
what waited to be removed; no other peer hears of anything. -/
theorem deliver_flush (member : Participant) (session : SessionHandle)
    (heard : EndpointId → Set StreamItem) :
    (member.flush session).1.foldl Signaling.deliver heard =
      Function.update heard member.endpoint
        ((heard member.endpoint ∪ member.pendingAdd.items) \ member.pendingRemove.items) := by
  by_cases noAdd : member.pendingAdd.isEmpty = true <;>
    by_cases noRemove : member.pendingRemove.isEmpty = true <;>
      simp [flush, takePending, pending, clearPending, update?, noAdd, noRemove,
        Streams.isEmpty_iff_items.mp, Signaling.deliver, ChangeKind.on]

end Participant

end ConferenceFocus
