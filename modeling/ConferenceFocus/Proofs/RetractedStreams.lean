import ConferenceFocus.Proofs.FanOut

/-!
# Retracted streams

A member may retract more than it holds, and with its sources it loses the groups that
it then no longer covers.  What is left can be said of each entry alone
(`own_withdraw`), so that to withdraw the same streams once more finds nothing, and
what is told of is what was there before and is not there afterwards.
-/

namespace ConferenceFocus

open Keyed (key)

namespace GroupSet

theorem contains_iff_mem (groups : GroupSet) {media : MediaType} {group : SourceGroup} :
    groups.contains media group = true ↔ group ∈ groups.entriesFor media := by
  simp [MediaSet.contains_iff, key]

theorem contains_uncoveredBy (groups : GroupSet) (sources : SourceSet) (media : MediaType)
    (group : SourceGroup) :
    (groups.uncoveredBy sources).contains media group =
      (groups.contains media group && !decide (sources.Covers media group)) := by
  rw [MediaSet.contains, entriesFor_uncoveredBy, ← decide_not]
  exact Keyed.holds_filter _ (fun group => decide (¬ sources.Covers media group)) group

theorem nodup_entriesFor {groups : GroupSet} (distinct : groups.Distinct) (media : MediaType) :
    (groups.entriesFor media).Nodup :=
  (distinct media).of_map key

end GroupSet

namespace Streams

/-- What of its own streams is left to a member that withdraws others: the sources that
are not named, and of the groups that are not named those that these sources cover. -/
def retained (own named : Streams) : Streams :=
  let sources := own.sources.diff named.sources
  { sources, groups := own.groups.filter fun media group =>
      !named.groups.contains media group && decide (SourceSet.Covers sources media group) }

theorem retained_retained (own named : Streams) :
    (own.retained named).retained named = own.retained named := by
  have sources : (own.sources.diff named.sources).diff named.sources =
      own.sources.diff named.sources := by
    simp only [MediaSet.diff, MediaSet.filter_filter, Bool.and_self]
  simp only [retained, sources, MediaSet.filter_filter, Bool.and_self]

/-- Of its own streams a member has lost `gone`, by withdrawing what is named. -/
structure Loses (own named gone left : Streams) : Prop where
  /-- Nothing else is dropped. -/
  left_eq : left = own.diff gone
  /-- The records that are gone are the member's own, in their order. -/
  sources : gone.sources = own.sources.diff left.sources
  /-- The groups that are gone may be in another order, but none is there twice. -/
  groups : gone.groups.Rearranged (own.groups.diff left.groups)
  once : gone.groups.Distinct
  mem_sources : ∀ media source, source ∈ gone.sources.entriesFor media ↔
    source ∈ own.sources.entriesFor media ∧ named.sources.contains media source.ssrc = true
  mem_groups : ∀ media group, group ∈ gone.groups.entriesFor media ↔
    group ∈ own.groups.entriesFor media ∧
      (named.groups.contains media group = true ∨ ¬ SourceSet.Covers left.sources media group)

end Streams

namespace Participant

variable (member : Participant) (named : Streams)

theorem own_withdraw : (member.withdraw named).2.own = member.own.retained named := by
  let sources := member.own.sources.diff (member.own.sources.inter named.sources)
  let groups := member.own.groups.diff (member.own.groups.inter named.groups)
  have left : (member.withdraw named).2.own =
      { sources, groups := groups.diff (GroupSet.uncoveredBy groups sources) } := rfl
  have unnamed : groups = member.own.groups.diff named.groups := MediaSet.diff_inter_left
  have covered : groups.diff (GroupSet.uncoveredBy groups sources) =
      groups.filter fun media group => decide (SourceSet.Covers sources media group) := by
    refine MediaSet.filter_congr fun media group held => ?_
    rw [show key group = group from rfl, GroupSet.contains_uncoveredBy,
      (GroupSet.contains_iff_mem groups).mpr held, Bool.true_and, Bool.not_not]
  rw [left, covered, unnamed, MediaSet.diff, MediaSet.filter_filter,
    show sources = member.own.sources.diff named.sources from MediaSet.diff_inter_left]
  exact congrArg (Streams.mk _) (MediaSet.filter_congr fun media group _ => Bool.and_comm _ _)

theorem contains_groups_withdraw (media : MediaType) (group : SourceGroup) :
    (member.withdraw named).1.groups.contains media group =
      (member.own.groups.contains media group && (named.groups.contains media group ||
        !decide (SourceSet.Covers (member.withdraw named).2.own.sources media group))) := by
  let listed := member.own.groups.inter named.groups
  let left := (member.withdraw named).2.own.sources
  have gone : (member.withdraw named).1.groups =
      listed.union (GroupSet.uncoveredBy (member.own.groups.diff listed) left) := rfl
  rw [gone, MediaSet.contains_union, GroupSet.contains_uncoveredBy, MediaSet.diff_inter_left,
    MediaSet.contains_inter, MediaSet.contains_diff]
  cases member.own.groups.contains media group <;>
    cases named.groups.contains media group <;> rfl

theorem left_groups_withdraw :
    (member.withdraw named).2.own.groups =
      member.own.groups.diff (member.withdraw named).1.groups := by
  rw [own_withdraw]
  refine MediaSet.filter_congr fun media group held => ?_
  have goes := member.contains_groups_withdraw named media group
  rw [(GroupSet.contains_iff_mem _).mpr held, Bool.true_and, own_withdraw] at goes
  rw [show key group = group from rfl, goes, Bool.not_or, Bool.not_not]
  rfl

theorem loses_withdraw (distinct : member.own.groups.Distinct) :
    member.own.Loses named (member.withdraw named).1 (member.withdraw named).2.own := by
  have once : (member.withdraw named).1.groups.Distinct := (distinct.filter _).union _
  have mem_groups (media : MediaType) (group : SourceGroup) :
      group ∈ (member.withdraw named).1.groups.entriesFor media ↔
        group ∈ member.own.groups.entriesFor media ∧ (named.groups.contains media group = true ∨
          ¬ SourceSet.Covers (member.withdraw named).2.own.sources media group) := by
    rw [← GroupSet.contains_iff_mem, contains_groups_withdraw, ← GroupSet.contains_iff_mem]
    simp
  refine ⟨congrArg₂ Streams.mk rfl (member.left_groups_withdraw named), ?_, fun media => ?_, once,
    fun media source => ?_, mem_groups⟩
  · have left : (member.withdraw named).2.own.sources =
        member.own.sources.diff named.sources := MediaSet.diff_inter_left
    rw [left, MediaSet.diff_diff_self]
    rfl
  · rw [left_groups_withdraw, MediaSet.diff_diff_self]
    have part : (member.own.groups.inter (member.withdraw named).1.groups).Distinct :=
      distinct.filter _
    refine (List.perm_ext_iff_of_nodup (GroupSet.nodup_entriesFor once media)
      (GroupSet.nodup_entriesFor part media)).mpr fun group => ?_
    rw [MediaSet.entriesFor_inter, List.mem_filter, show key group = group from rfl,
      GroupSet.contains_iff_mem]
    exact ⟨fun goes => ⟨((mem_groups media group).mp goes).1, goes⟩, And.right⟩
  · have gone : (member.withdraw named).1.sources = member.own.sources.inter named.sources := rfl
    rw [gone, MediaSet.entriesFor_inter, List.mem_filter]
    rfl

/-- To withdraw the same streams once more finds nothing and changes nothing. -/
theorem withdraw_withdraw :
    ((member.withdraw named).2.withdraw named).1.isEmpty = true ∧
      ((member.withdraw named).2.withdraw named).2 = (member.withdraw named).2 := by
  let left := (member.withdraw named).2
  have sameOwn : (left.withdraw named).2.own = left.own := by
    rw [own_withdraw, own_withdraw, Streams.retained_retained]
  obtain ⟨wasHeld, lost⟩ := left.items_withdraw named
  refine ⟨?_, congrArg (fun own => { member with own }) sameOwn⟩
  rw [Streams.isEmpty_iff_items, Set.eq_empty_iff_forall_notMem]
  intro item gone
  have stays : item ∈ (left.withdraw named).2.own.items := sameOwn ▸ wasHeld gone
  rw [lost] at stays
  exact stays.2 gone

end Participant

/-- A member that joins holds each of its groups once. -/
def RosterMove.JoinsDistinct : RosterMove → Prop
  | .call (.add member) => member.own.groups.Distinct
  | .call _ | .own .. => True

instance (move : RosterMove) : Decidable move.JoinsDistinct :=
  match move with
  | .call (.add _) => inferInstanceAs (Decidable (MediaSet.Distinct _))
  | .call (.announce ..) | .call (.retract ..) | .call (.remove _) | .call (.establish ..)
  | .call (.dropSession _) | .own .. => isTrue trivial

namespace Roster

variable {roster : Roster} {member : Participant}

/-- No name is taken twice, and the members hold each of their groups once. -/
structure Proper (roster : Roster) : Prop where
  names : roster.Distinct
  groups : ∀ member ∈ roster.members, member.own.groups.Distinct

theorem distinct_move (distinct : roster.Distinct) (move : RosterMove) :
    (roster.move move).Distinct := by
  cases move with
  | call call =>
      simp only [Roster.move]
      cases outcome : roster.handle call with
      | error cause => exact distinct
      | ok result => exact distinct_handled distinct (handled_of_handle outcome)
  | own endpoint change =>
      simp only [Roster.move]
      cases outcome : roster.changeOwn endpoint change with
      | error cause => exact distinct
      | ok next =>
          obtain ⟨origin, originPresent, rfl, made⟩ := get_bind_eq_ok outcome
          cases made
          exact distinct_replace distinct _

theorem Proper.move (proper : roster.Proper) {move : RosterMove} (joins : move.JoinsDistinct) :
    (roster.move move).Proper := by
  refine ⟨distinct_move proper.names move, fun member present => ?_⟩
  generalize held : member.own = own
  cases held ▸ holding_of_mem_move present with
  | kept former formerly => exact proper.groups former formerly
  | joined joined => exact joins
  | announced origin originPresent streams => exact (proper.groups origin originPresent).union _
  | retracted origin originPresent streams =>
      rw [Participant.left_groups_withdraw]
      exact (proper.groups origin originPresent).filter _
  | changed origin originPresent change =>
      have distinct := proper.groups origin originPresent
      cases change with
      | importAnswer | addStreams => exact distinct.union _
      | removeSources | removeGroups => exact distinct.filter _

theorem proper_foldl_move {moves : List RosterMove}
    (joins : ∀ move ∈ moves, move.JoinsDistinct) : (moves.foldl Roster.move {}).Proper :=
  List.foldlRecOn (motive := Proper) moves Roster.move
    ⟨List.nodup_nil, fun _ present => nomatch present⟩
    fun _ proper move listed => proper.move (joins move listed)

theorem replace_self (distinct : roster.Distinct) (present : member ∈ roster.members) :
    roster.replace member = roster := by
  refine congrArg Roster.mk ((List.map_congr_left fun other otherPresent => ?_).trans
    (List.map_id _))
  split
  · next same => exact (distinct.eq_of_endpoint_eq otherPresent present same).symm
  · rfl

/-- A retraction that finds nothing and leaves the member as it is changes nothing. -/
theorem retract_eq_self (distinct : roster.Distinct) (present : member ∈ roster.members)
    {named : Streams} (nothing : (member.withdraw named).1.isEmpty = true)
    (same : (member.withdraw named).2 = member) :
    roster.retract member.endpoint named = .ok ([], roster) := by
  have made := handle_notice (.retraction named) distinct present
  have unchanged : roster.revise member (.retraction named) = roster := by
    rw [revise, Notice.left?, same]
    exact replace_self distinct present
  have silent : roster.route member.endpoint .remove (member.withdraw named).1 = ([], roster) :=
    if_pos nothing
  rw [unchanged] at made
  exact made.trans (congrArg Except.ok silent)

/-- Every run leads to a proper roster.  There the others are told of a retraction exactly
what the member has lost by it, and of a leave all that the member had.  A member keeps all
that is not named, groups apart that lack a source, and to retract the same once more tells
nobody anything. -/
theorem losses_fan_out :
    (∀ moves : List RosterMove, (∀ move ∈ moves, move.JoinsDistinct) →
      (moves.foldl Roster.move {}).Proper) ∧
    ∀ roster : Roster, roster.Proper → ∀ member ∈ roster.members,
      (∀ named : Streams, ∃ gone left updates next,
        roster.retract member.endpoint named = .ok (updates, next) ∧
          roster.FansOut member.endpoint .remove gone updates next ∧
          next.get member.endpoint = .ok { member with own := left } ∧
          member.own.Loses named gone left ∧
          next.retract member.endpoint named = .ok ([], next)) ∧
      ∃ updates next, roster.remove member.endpoint = .ok (member, updates, next) ∧
        roster.FansOut member.endpoint .remove member.own updates next := by
  refine ⟨fun moves => proper_foldl_move, ?_⟩
  rintro roster ⟨distinct, groups⟩ member present
  refine ⟨fun named => ?_, ?_⟩
  · let notice : Notice := .retraction named
    let left := (member.withdraw named).2
    let result := (roster.revise member notice).route member.endpoint .remove
      (member.withdraw named).1
    have found : result.2.get member.endpoint = .ok left :=
      get_notice notice distinct present rfl
    have stillDistinct : result.2.Distinct :=
      distinct_route _ _ _ _ (revised_revise notice distinct present).distinct
    obtain ⟨nothing, same⟩ := member.withdraw_withdraw named
    exact ⟨_, left.own, result.1, result.2, handle_notice notice distinct present,
      fansOut_notice notice distinct present, found,
      member.loses_withdraw named (groups member present),
      retract_eq_self stillDistinct (get_eq_ok found).1 nothing same⟩
  · have leaves : roster.remove member.endpoint = .ok (member,
        (roster.without member.endpoint).route member.endpoint .remove member.own) := by
      simp only [remove, get_of_mem distinct present]
      rfl
    exact ⟨_, _, leaves, fansOut_notice .departure distinct present⟩

open Simulation in
/-- One group is named and loses a source as well, the other has never had all of its
sources.  A source that is named is not the member's. -/
theorem losses_fan_out_of_uncovered_pair :
    let pair : SourceGroup := { semantics := .flowIdentification, ssrcs := [⟨3⟩, ⟨1⟩] }
    let layers : Streams :=
      { sources := Sample.sourceSet .video [1, 2, 4],
        groups := (Sample.simulcastGroups [1, 2]).insert .video pair }
    let named : Streams :=
      { sources := Sample.sourceSet .video [9, 2], groups := Sample.simulcastGroups [1, 2] }
    let moves : List RosterMove :=
      [.call (.add (Sample.participant "alice")), .call (.add (Sample.participant "bob")),
        .call (.establish ⟨"bob"⟩ ⟨"first"⟩), .call (.announce ⟨"alice"⟩ layers)]
    let roster := moves.foldl Roster.move {}
    ∃ gone updates next, roster.retract ⟨"alice"⟩ named = .ok (updates, next) ∧
      updates.filter (·.target = ⟨"bob"⟩) =
        [{ target := ⟨"bob"⟩, session := ⟨"first"⟩, kind := .remove, streams := gone }] ∧
      (∀ source ∈ gone.sources.entriesFor .video, source.ssrc = ⟨2⟩) ∧
      pair ∈ gone.groups.entriesFor .video ∧ gone.groups.Distinct ∧
      next.retract ⟨"alice"⟩ named = .ok ([], next) := by
  intro pair layers named moves roster
  have joins : ∀ move ∈ moves, move.JoinsDistinct := by decide
  obtain ⟨alice, alicePresent, isAlice, held, third, second⟩ : ∃ alice ∈ roster.members,
      alice.endpoint = ⟨"alice"⟩ ∧ pair ∈ alice.own.groups.entriesFor .video ∧
        alice.own.sources.contains .video ⟨3⟩ = false ∧
        ∀ source ∈ alice.own.sources.entriesFor .video,
          named.sources.contains .video source.ssrc = true → source.ssrc = ⟨2⟩ := by decide
  obtain ⟨bob, bobPresent, isBob, connected⟩ : ∃ bob ∈ roster.members,
      bob.endpoint = ⟨"bob"⟩ ∧ bob.session = some ⟨"first"⟩ := by decide
  obtain ⟨leads, losses⟩ := losses_fan_out
  obtain ⟨retracts, _⟩ := losses roster (leads moves joins) alice alicePresent
  obtain ⟨gone, left, updates, next, success, fansOut, _, loses, again⟩ := retracts named
  rw [isAlice] at success fansOut again
  have lost : pair ∈ gone.groups.entriesFor .video := by
    refine (loses.mem_groups .video pair).mpr ⟨held, .inr fun covers => ?_⟩
    have covered : left.sources.contains .video ⟨3⟩ = true := covers ⟨3⟩ (by decide)
    rw [loses.left_eq, Streams.diff, MediaSet.contains_diff, third] at covered
    cases covered
  have something : gone.isEmpty = false := by
    rw [Bool.eq_false_iff]
    intro nothing
    rw [Streams.isEmpty, Bool.and_eq_true, MediaSet.isEmpty_iff, MediaSet.isEmpty_iff] at nothing
    rw [nothing.2] at lost
    cases lost
  obtain ⟨told, _⟩ :=
    fansOut.told something bob bobPresent (by rw [isBob]; decide) ⟨"first"⟩ connected
  rw [isBob] at told
  refine ⟨gone, updates, next, success, told, fun source listed => ?_, lost, loses.once, again⟩
  have both := (loses.mem_sources .video source).mp listed
  exact second source both.1 both.2

end Roster

end ConferenceFocus
