import ConferenceFocus.Proofs.GroupCoverage
import ConferenceFocus.Proofs.IndependentChanges

/-!
# Fan-out of changes

A member announces streams, retracts streams or leaves.  Each time the change is made
first and told afterwards, by routing it through the roster it has led to.  Who is
reached, and how, is therefore said once, of any roster (`fansOut_route`); the three
kinds of change differ in what they leave of the member that makes them.
-/

namespace ConferenceFocus

/-- A change of one member of which all others have to hear. -/
inductive Notice where
  | announcement (streams : Streams)
  | retraction (streams : Streams)
  | departure

namespace Notice

def call (endpoint : EndpointId) : Notice → RosterCall
  | announcement streams => .announce endpoint streams
  | retraction streams => .retract endpoint streams
  | departure => .remove endpoint

def kind : Notice → ChangeKind
  | announcement _ => .add
  | retraction _ | departure => .remove

/-- What the others are to hear when a member makes the change. -/
def payload (member : Participant) : Notice → Streams
  | announcement streams => streams.withOwner member.owner
  | retraction streams => (member.withdraw streams).1
  | departure => member.own

/-- The member once it has made the change, unless it is gone. -/
def left? (member : Participant) : Notice → Option Participant
  | announcement streams => some (member.addStreams (streams.withOwner member.owner))
  | retraction streams => some (member.withdraw streams).2
  | departure => none

/-- The names of those that are left, in their order. -/
def names (endpoint : EndpointId) (before : List EndpointId) : Notice → List EndpointId
  | announcement _ | retraction _ => before
  | departure => before.filter (· ≠ endpoint)

theorem sameInbox_left {member left : Participant} {notice : Notice}
    (remains : notice.left? member = some left) : member.SameInbox left := by
  cases notice with
  | announcement streams =>
      cases remains
      exact member.sameInbox_addStreams _
  | retraction streams =>
      cases remains
      exact member.sameInbox_withdraw streams
  | departure => cases remains

end Notice

namespace Roster

/-- Every member but `origin` is reached exactly once, by one update if it has a session
and by one entry in its queues if it has none, and nothing else happens to it.  A change
of nothing reaches nobody. -/
structure FansOut (roster : Roster) (origin : EndpointId) (kind : ChangeKind)
    (streams : Streams) (updates : List SourceUpdate) (next : Roster) : Prop where
  told : streams.isEmpty = false → ∀ member ∈ roster.members, member.endpoint ≠ origin →
    ∀ session ∈ member.session,
      updates.filter (·.target = member.endpoint) =
          [{ target := member.endpoint, session, kind, streams }] ∧
        next.get member.endpoint = .ok member
  queued : streams.isEmpty = false → ∀ member ∈ roster.members, member.endpoint ≠ origin →
    member.session = none →
      updates.filter (·.target = member.endpoint) = [] ∧
        next.get member.endpoint = .ok (member.schedule kind streams)
  silent : streams.isEmpty = true →
    updates = [] ∧ ∀ member ∈ roster.members, member.endpoint ≠ origin →
      next.get member.endpoint = .ok member
  /-- Updates are addressed to other members only, in the order in which these have joined. -/
  order : (updates.map (·.target)).Sublist
    ((roster.members.map (·.endpoint)).filter (· ≠ origin))

variable {roster : Roster} {member : Participant}

section Route

variable (origin : EndpointId) (kind : ChangeKind) (streams : Streams)

theorem get_route (distinct : roster.Distinct) (present : member ∈ roster.members) :
    (roster.route origin kind streams).2.get member.endpoint =
      .ok (member.reached origin kind streams) := by
  have reached : member.reached origin kind streams ∈
      (roster.route origin kind streams).2.members := by
    rw [members_route]
    exact List.mem_map_of_mem present
  have found := get_of_mem (distinct_route roster origin kind streams distinct) reached
  rwa [endpoint_reached] at found

theorem targets_sublist (members : List Participant) :
    ((members.filterMap (·.update? kind streams)).map (·.target)).Sublist
      (members.map (·.endpoint)) := by
  induction members with
  | nil => exact .slnil
  | cons member rest ih =>
      rw [List.filterMap_cons, List.map_cons]
      cases told : member.update? kind streams with
      | none => exact ih.cons _
      | some update =>
          rw [List.map_cons, target_of_update? told]
          exact ih.cons_cons _

theorem names_without (endpoint : EndpointId) :
    (roster.without endpoint).members.map (·.endpoint) =
      (roster.members.map (·.endpoint)).filter (· ≠ endpoint) := by
  rw [without, List.filter_map]
  rfl

theorem fansOut_route (distinct : roster.Distinct) :
    roster.FansOut origin kind streams (roster.route origin kind streams).1
      (roster.route origin kind streams).2 where
  told := by
    intro something member present different session connected
    have itself : member.reached origin kind streams = member :=
      Participant.reached_of_hasSession (Option.isSome_iff_exists.mpr ⟨session, connected⟩) _ _ _
    rw [filter_target_route roster origin kind streams distinct present different something,
      get_route origin kind streams distinct present, itself, Participant.update?,
      Option.mem_def.mp connected]
    exact ⟨rfl, rfl⟩
  queued := by
    intro something member present different unconnected
    have parked : member.reached origin kind streams = member.schedule kind streams := by
      simp [Participant.reached, Participant.park, Participant.hasSession, different, something,
        unconnected]
    rw [filter_target_route roster origin kind streams distinct present different something,
      get_route origin kind streams distinct present, parked, Participant.update?, unconnected]
    exact ⟨rfl, rfl⟩
  silent := by
    intro nothing
    have unchanged : roster.route origin kind streams = ([], roster) := if_pos nothing
    rw [unchanged]
    exact ⟨rfl, fun member present _ => get_of_mem distinct present⟩
  order := by
    unfold route
    split
    · exact List.nil_sublist _
    · rw [← names_without]
      exact targets_sublist kind streams _

end Route

section Notices

/-- The roster in which a member has made a change, and nobody has heard of it yet. -/
def revise (roster : Roster) (member : Participant) (notice : Notice) : Roster :=
  match notice.left? member with
  | some left => roster.replace left
  | none => roster.without member.endpoint

variable (notice : Notice)

theorem revised_revise (distinct : roster.Distinct) (present : member ∈ roster.members) :
    Revised roster (roster.revise member notice) member.endpoint notice.kind
      (notice.payload member) := by
  cases notice with
  | announcement streams => exact revised_announce distinct present streams
  | retraction streams => exact revised_retract distinct present streams
  | departure => exact revised_remove distinct present

theorem names_revise :
    (roster.revise member notice).members.map (·.endpoint) =
      notice.names member.endpoint (roster.members.map (·.endpoint)) := by
  cases notice with
  | announcement | retraction => exact names_replace _
  | departure => exact names_without member.endpoint

theorem handle_notice (distinct : roster.Distinct) (present : member ∈ roster.members) :
    roster.handle (notice.call member.endpoint) =
      .ok ((roster.revise member notice).route member.endpoint notice.kind
        (notice.payload member)) := by
  cases notice with
  | announcement streams =>
      simp only [Notice.call, handle, announce, get_of_mem distinct present]
      rfl
  | retraction streams =>
      simp only [Notice.call, handle, retract, get_of_mem distinct present]
      rfl
  | departure =>
      simp only [Notice.call, handle, remove, get_of_mem distinct present]
      rfl

/-- What a change does to the others it does seen from the roster it was made in. -/
theorem FansOut.of_revised {base : Roster} {origin : EndpointId} {kind : ChangeKind}
    {streams : Streams} {updates : List SourceUpdate} {next : Roster}
    (fansOut : base.FansOut origin kind streams updates next)
    (others : ∀ member, member.endpoint ≠ origin →
      (member ∈ base.members ↔ member ∈ roster.members))
    (names : (base.members.map (·.endpoint)).filter (· ≠ origin) =
      (roster.members.map (·.endpoint)).filter (· ≠ origin)) :
    roster.FansOut origin kind streams updates next where
  told := fun something member present different =>
    fansOut.told something member ((others member different).mpr present) different
  queued := fun something member present different =>
    fansOut.queued something member ((others member different).mpr present) different
  silent := fun nothing =>
    ⟨(fansOut.silent nothing).1, fun member present different =>
      (fansOut.silent nothing).2 member ((others member different).mpr present) different⟩
  order := names ▸ fansOut.order

theorem fansOut_notice (distinct : roster.Distinct) (present : member ∈ roster.members) :
    let result := (roster.revise member notice).route member.endpoint notice.kind
      (notice.payload member)
    roster.FansOut member.endpoint notice.kind (notice.payload member) result.1 result.2 := by
  have revised := revised_revise notice distinct present
  refine (fansOut_route _ _ _ revised.distinct).of_revised revised.others ?_
  rw [names_revise]
  cases notice with
  | announcement | retraction => rfl
  | departure => simp [Notice.names]

/-- A member that makes a change is not told of it. -/
theorem get_notice (distinct : roster.Distinct) (present : member ∈ roster.members)
    {left : Participant} (remains : notice.left? member = some left) :
    ((roster.revise member notice).route member.endpoint notice.kind
      (notice.payload member)).2.get member.endpoint = .ok left := by
  have inbox := Notice.sameInbox_left remains
  have stays : left ∈ (roster.revise member notice).members := by
    rw [revise, remains]
    exact mem_replace.mpr (.inr ⟨rfl, member, present, inbox.endpoint⟩)
  have found := get_route member.endpoint notice.kind (notice.payload member)
    (revised_revise notice distinct present).distinct stays
  rwa [Participant.reached_origin inbox.endpoint.symm, ← inbox.endpoint] at found

end Notices

end Roster

end ConferenceFocus
