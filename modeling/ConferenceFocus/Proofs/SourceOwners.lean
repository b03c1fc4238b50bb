import Mathlib.Data.List.DropRight
import ConferenceFocus.Proofs.RosterChanges
import ConferenceFocus.Simulation.Sample

/-!
# Owners of sources

Whatever owners a source is announced under, it is held, told and queued under
the address of the member that brought it.  Sets keep the record that came first,
queues mix the records of many members, and an entry is cancelled by its SSRC
alone, so this has to be followed through every copy that is made of a record.
-/

namespace ConferenceFocus

namespace Streams

/-- All sources of the streams have a property; groups have no owner. -/
def Each (streams : Streams) (holds : MediaType → Source → Prop) : Prop :=
  ∀ media, ∀ source ∈ streams.sources.entriesFor media, holds media source

variable {left right : Streams} {holds other : MediaType → Source → Prop}

theorem each_empty : (∅ : Streams).Each holds := by
  intro media source member
  have nothing : (∅ : Streams).sources.entriesFor media = [] := MediaSet.entriesFor_empty media
  rw [nothing] at member
  cases member

theorem Each.mono (each : left.Each holds)
    (implies : ∀ media source, holds media source → other media source) : left.Each other :=
  fun media source member => implies media source (each media source member)

theorem Each.union (first : left.Each holds) (second : right.Each holds) :
    (left.union right).Each holds := by
  intro media source member
  rw [Streams.union, MediaSet.entriesFor_union] at member
  rcases Keyed.mem_of_mem_appendAll member with held | added
  · exact first media source held
  · exact second media source added

theorem Each.diff (each : left.Each holds) (right : Streams) : (left.diff right).Each holds := by
  intro media source member
  rw [Streams.diff, MediaSet.entriesFor_diff] at member
  exact each media source (List.mem_filter.mp member).1

theorem Each.inter (each : left.Each holds) (right : Streams) :
    (left.inter right).Each holds := by
  intro media source member
  rw [Streams.inter, MediaSet.entriesFor_inter] at member
  exact each media source (List.mem_filter.mp member).1

theorem Each.foldl_union {all : List Streams} (start : left.Each holds)
    (each : ∀ streams ∈ all, streams.Each holds) : (all.foldl Streams.union left).Each holds := by
  induction all generalizing left with
  | nil => exact start
  | cons first rest ih =>
      obtain ⟨now, later⟩ := List.forall_mem_cons.mp each
      exact ih (start.union now) later

theorem contains_withOwner (streams : Streams) (owner : String) (media : MediaType)
    (ssrc : Ssrc) :
    (streams.withOwner owner).sources.contains media ssrc = streams.sources.contains media ssrc :=
  MediaSet.contains_map streams.sources (·.withOwner owner) (fun _ => rfl) media ssrc

/-- Stamped sources have the owner they are stamped with, and are otherwise among
those that were to be stamped. -/
theorem each_withOwner (streams : Streams) (owner : String) :
    (streams.withOwner owner).Each fun media source =>
      source.owner = some owner ∧ streams.sources.contains media source.ssrc = true := by
  intro media source member
  constructor
  · change source ∈ (MediaSet.ofList _ : SourceSet).entriesFor media at member
    rw [MediaSet.entriesFor_ofList] at member
    rcases Keyed.mem_of_mem_appendAll member with absent | stamped
    · cases absent
    · obtain ⟨entry, listed, rfl⟩ := List.mem_map.mp stamped
      obtain ⟨former, _, rfl⟩ := List.mem_map.mp (List.mem_of_mem_filter listed)
      rfl
  · rw [← contains_withOwner streams owner]
    exact MediaSet.contains_iff.mpr ⟨source, member, rfl⟩

end Streams

/-- What can happen to a roster and to its members themselves. -/
inductive RosterAct where
  | call (call : RosterCall)
  | importAnswer (endpoint : EndpointId) (contents : List MediaContent)
  | addStreams (endpoint : EndpointId) (streams : Streams)

namespace RosterAct

/-- Who announces or imports sources, and which. -/
def brought? : RosterAct → Option (EndpointId × SourceSet)
  | .call (.announce endpoint streams) => some (endpoint, streams.sources)
  | .importAnswer endpoint contents => some (endpoint, SourceSet.ofContents contents)
  | .addStreams endpoint streams => some (endpoint, streams.sources)
  | _ => none

/-- Whose change the others are told of. -/
def origin? : RosterAct → Option EndpointId
  | .call (.announce endpoint _) | .call (.retract endpoint _) | .call (.remove endpoint) =>
      some endpoint
  | _ => none

/-- A member that joins has announced nothing, and nothing waits for it. -/
def JoinsBare : RosterAct → Prop
  | .call (.add member) =>
      member.own = ∅ ∧ member.pendingAdd = ∅ ∧ member.pendingRemove = ∅
  | _ => True

instance (act : RosterAct) : Decidable act.JoinsBare :=
  match act with
  | .call (.add _) => inferInstanceAs (Decidable (_ ∧ _))
  | .call (.announce ..) | .call (.retract ..) | .call (.remove _) | .call (.establish ..)
  | .call (.dropSession _) | .importAnswer .. | .addStreams .. => isTrue trivial

theorem joinsBare_of_origin? {act : RosterAct} {endpoint : EndpointId}
    (origin : act.origin? = some endpoint) : act.JoinsBare := by
  cases act with
  | call call =>
      cases call with
      | add member => cases origin
      | _ => trivial
  | _ => trivial

end RosterAct

/-- An act together with the roster that met it. -/
structure RosterEvent where
  before : Roster
  act : RosterAct

namespace RosterEvent

/-- A member with this address announces or imports this very source. -/
def Credits (event : RosterEvent) (owner : String) (media : MediaType) (ssrc : Ssrc) : Prop :=
  ∃ member ∈ event.before.members, member.owner = owner ∧
    ∃ sources, event.act.brought? = some (member.endpoint, sources) ∧
      sources.contains media ssrc = true

end RosterEvent

/-- The owner of a source is the address of a member that brought it. -/
def Credited (past : List RosterEvent) (media : MediaType) (source : Source) : Prop :=
  ∃ owner, source.owner = some owner ∧ ∃ event ∈ past, event.Credits owner media source.ssrc

theorem Credited.later {past : List RosterEvent} {media : MediaType} {source : Source}
    (credited : Credited past media source) (event : RosterEvent) :
    Credited (past ++ [event]) media source := by
  obtain ⟨owner, owned, earlier, listed, credits⟩ := credited
  exact ⟨owner, owned, earlier, List.mem_append_left _ listed, credits⟩

namespace Roster

def perform (roster : Roster) : RosterAct → Except RosterError (List SourceUpdate × Roster)
  | .call call => roster.handle call
  | .importAnswer endpoint contents => do
      let member ← roster.get endpoint
      return ([], roster.replace (member.importAnswer contents).2)
  | .addStreams endpoint streams => do
      let member ← roster.get endpoint
      return ([], roster.replace (member.addStreams streams))

/-- The roster after an act; one that fails changes nothing. -/
def advance (roster : Roster) (act : RosterAct) : Roster :=
  match roster.perform act with
  | .ok (_, next) => next
  | .error _ => roster

def after (roster : Roster) (acts : List RosterAct) : Roster :=
  acts.foldl advance roster

def events (roster : Roster) : List RosterAct → List RosterEvent
  | [] => []
  | act :: rest => { before := roster, act } :: (roster.advance act).events rest

theorem after_concat (roster : Roster) (acts : List RosterAct) (act : RosterAct) :
    roster.after (acts ++ [act]) = (roster.after acts).advance act := by
  rw [after, after, List.foldl_append, List.foldl_cons, List.foldl_nil]

theorem events_concat (roster : Roster) (acts : List RosterAct) (act : RosterAct) :
    roster.events (acts ++ [act]) =
      roster.events acts ++ [{ before := roster.after acts, act }] := by
  induction acts generalizing roster with
  | nil => rfl
  | cons first rest ih => simp only [List.cons_append, events, ih, after, List.foldl_cons]

end Roster

/-- What a member holds has its own address and was brought by it; what waits for it
was brought by whoever it is attributed to. -/
structure Participant.Attributed (member : Participant) (past : List RosterEvent) : Prop where
  owned : member.own.Each fun _ source => source.owner = some member.owner
  brought : member.own.Each (Credited past)
  queued : ∀ kind, (member.pending kind).Each (Credited past)

namespace Participant

variable {member changed : Participant} {past : List RosterEvent} {streams : Streams}

theorem Attributed.later (attributed : member.Attributed past) (event : RosterEvent) :
    member.Attributed (past ++ [event]) where
  owned := attributed.owned
  brought := attributed.brought.mono fun _ _ credited => credited.later event
  queued := fun kind => (attributed.queued kind).mono fun _ _ credited => credited.later event

/-- A member takes in streams under its own address. -/
theorem Attributed.gains (attributed : member.Attributed past) (changed : Participant)
    (sameOwner : changed.owner = member.owner) (grown : changed.own = member.own.union streams)
    (sameAdd : changed.pendingAdd = member.pendingAdd)
    (sameRemove : changed.pendingRemove = member.pendingRemove)
    (stamped : streams.Each fun media source =>
      source.owner = some member.owner ∧ Credited past media source) :
    changed.Attributed past where
  owned := by
    rw [sameOwner, grown]
    exact attributed.owned.union (stamped.mono fun _ _ both => both.1)
  brought := by
    rw [grown]
    exact attributed.brought.union (stamped.mono fun _ _ both => both.2)
  queued := by
    intro kind
    cases kind with
    | add =>
        rw [pending, sameAdd]
        exact attributed.queued .add
    | remove =>
        rw [pending, sameRemove]
        exact attributed.queued .remove

theorem Attributed.withSession (attributed : member.Attributed past)
    (session : Option SessionHandle) : ({ member with session } : Participant).Attributed past :=
  ⟨attributed.owned, attributed.brought, attributed.queued⟩

theorem each_pending_schedule {holds : MediaType → Source → Prop}
    (queued : ∀ kind, (member.pending kind).Each holds) (each : streams.Each holds)
    (kind other : ChangeKind) : ((member.schedule kind streams).pending other).Each holds := by
  have adding := queued .add
  have removing := queued .remove
  cases kind <;> cases other
  · exact adding.union (each.diff _)
  · exact removing.diff _
  · exact adding.diff _
  · exact removing.union (each.diff _)

theorem Attributed.reached (attributed : member.Attributed past)
    (each : streams.Each (Credited past)) (origin : EndpointId) (kind : ChangeKind) :
    (member.reached origin kind streams).Attributed past := by
  unfold Participant.reached park
  split
  · exact attributed
  · split
    · exact attributed
    · refine ⟨?_, ?_, fun other => each_pending_schedule attributed.queued each kind other⟩
      · cases kind <;> exact attributed.owned
      · cases kind <;> exact attributed.brought

theorem streams_of_update? {kind : ChangeKind} {update : SourceUpdate}
    (told : member.update? kind streams = some update) : update.streams = streams := by
  obtain ⟨session, _, rfl⟩ := Option.map_eq_some_iff.mp told
  rfl

/-- Taking a queue yields what is in it, and leaves each queue as it was, or empty. -/
theorem takePending_spec (member : Participant) (kind : ChangeKind) :
    (∀ streams ∈ (member.takePending kind).1, streams = member.pending kind) ∧
      (∀ other, ((member.takePending kind).2.pending other) = member.pending other ∨
        ((member.takePending kind).2.pending other) = ∅) ∧
      (member.takePending kind).2.owner = member.owner ∧
      (member.takePending kind).2.own = member.own := by
  unfold takePending
  by_cases empty : (member.pending kind).isEmpty = true
  · rw [if_pos empty]
    exact ⟨fun _ taken => (nomatch taken), fun _ => .inl rfl, rfl, rfl⟩
  · rw [if_neg empty]
    refine ⟨fun streams taken => (Option.some.inj taken).symm, fun other => ?_, ?_, ?_⟩
    · cases kind <;> cases other <;> simp [clearPending, pending]
    · cases kind <;> rfl
    · cases kind <;> rfl

theorem Attributed.takePending (attributed : member.Attributed past) (kind : ChangeKind) :
    (∀ streams ∈ (member.takePending kind).1, streams.Each (Credited past)) ∧
      (member.takePending kind).2.Attributed past := by
  obtain ⟨taken, left, sameOwner, sameOwn⟩ := member.takePending_spec kind
  refine ⟨fun streams present => ?_, ?_, ?_, fun other => ?_⟩
  · rw [taken streams present]
    exact attributed.queued kind
  · rw [sameOwner, sameOwn]
    exact attributed.owned
  · rw [sameOwn]
    exact attributed.brought
  · rcases left other with same | cleared
    · rw [same]
      exact attributed.queued other
    · rw [cleared]
      exact Streams.each_empty

theorem Attributed.flush (attributed : member.Attributed past) (session : SessionHandle) :
    (∀ update ∈ (member.flush session).1, update.streams.Each (Credited past)) ∧
      (member.flush session).2.Attributed past := by
  have connected := attributed.withSession (some session)
  obtain ⟨adds, afterAdds⟩ := connected.takePending .add
  obtain ⟨removes, afterRemoves⟩ := afterAdds.takePending .remove
  refine ⟨fun update flushed => ?_, afterRemoves⟩
  rcases List.mem_append.mp flushed with added | removed
  · obtain ⟨streams, taken, told⟩ := Option.bind_eq_some_iff.mp (Option.mem_toList.mp added)
    rw [streams_of_update? told]
    exact adds streams taken
  · obtain ⟨streams, taken, told⟩ := Option.bind_eq_some_iff.mp (Option.mem_toList.mp removed)
    rw [streams_of_update? told]
    exact removes streams taken

/-- What is withdrawn is among the member's own records, and the rest stays. -/
theorem Attributed.withdraw (attributed : member.Attributed past) (streams : Streams) :
    ((member.withdraw streams).1.Each fun media source =>
        source.owner = some member.owner ∧ Credited past media source) ∧
      (member.withdraw streams).2.Attributed past := by
  have own : member.own.Each fun media source =>
      source.owner = some member.owner ∧ Credited past media source :=
    fun media source held =>
      ⟨attributed.owned media source held, attributed.brought media source held⟩
  have taken := own.inter streams
  have left := own.diff (member.own.inter streams)
  exact ⟨taken, left.mono fun _ _ both => both.1, left.mono fun _ _ both => both.2,
    attributed.queued⟩

end Participant

namespace Roster

/-- Every member of the roster is attributed what it holds, and what waits for it. -/
structure Attributed (roster : Roster) (past : List RosterEvent) : Prop where
  distinct : roster.Distinct
  members : ∀ member ∈ roster.members, member.Attributed past

variable {roster : Roster} {past : List RosterEvent} {streams : Streams}

theorem streams_of_mem_route {origin : EndpointId} {kind : ChangeKind} {update : SourceUpdate}
    (told : update ∈ (roster.route origin kind streams).1) : update.streams = streams := by
  obtain ⟨_, member, _, _, told⟩ := mem_route.mp told
  exact Participant.streams_of_update? told

theorem Attributed.route (attributed : roster.Attributed past)
    (each : streams.Each (Credited past)) (origin : EndpointId) (kind : ChangeKind) :
    (roster.route origin kind streams).2.Attributed past where
  distinct := distinct_route roster origin kind streams attributed.distinct
  members := by
    intro member present
    rw [members_route] at present
    obtain ⟨former, formerly, rfl⟩ := List.mem_map.mp present
    exact (attributed.members former formerly).reached each origin kind

theorem Attributed.replace (attributed : roster.Attributed past) {changed : Participant}
    (right : changed.Attributed past) : (roster.replace changed).Attributed past where
  distinct := distinct_replace attributed.distinct changed
  members := by
    intro member present
    rcases mem_replace.mp present with ⟨other, _⟩ | ⟨rfl, _⟩
    · exact attributed.members member other
    · exact right

theorem Attributed.later (attributed : roster.Attributed past) (event : RosterEvent) :
    roster.Attributed (past ++ [event]) :=
  ⟨attributed.distinct, fun member present => (attributed.members member present).later event⟩

/-- What an act stamps is brought by it. -/
theorem stamped_each (past : List RosterEvent) (act : RosterAct) (streams : Streams)
    {member : Participant} (present : member ∈ roster.members) {sources : SourceSet}
    (brings : act.brought? = some (member.endpoint, sources))
    (within : ∀ media ssrc, streams.sources.contains media ssrc = true →
      sources.contains media ssrc = true) :
    (streams.withOwner member.owner).Each fun media source =>
      source.owner = some member.owner ∧
        Credited (past ++ [{ before := roster, act }]) media source := by
  refine (streams.each_withOwner member.owner).mono fun media source stamped => ?_
  obtain ⟨owned, named⟩ := stamped
  exact ⟨owned, member.owner, owned, _, List.mem_append_right _ (List.mem_singleton_self _),
    member, present, rfl, sources, brings, within media source.ssrc named⟩

/-- What is returned by an act, and what is left behind, is rightly attributed. -/
structure Answers (roster : Roster) (past : List RosterEvent) (act : RosterAct)
    (result : List SourceUpdate × Roster) : Prop where
  left : result.2.Attributed (past ++ [{ before := roster, act }])
  told : ∀ origin ∈ act.origin?, ∀ member ∈ roster.members, member.endpoint = origin →
    ∀ update ∈ result.1, update.streams.Each fun _ source => source.owner = some member.owner
  flushed : act.origin? = none → ∀ update ∈ result.1, update.streams.Each (Credited past)

/-- A change of one member is routed through a roster in which it has been made. -/
theorem answers_route {base : Roster} {act : RosterAct} {member : Participant} {kind : ChangeKind}
    (distinct : roster.Distinct) (present : member ∈ roster.members)
    (changes : act.origin? = some member.endpoint)
    (changed : base.Attributed (past ++ [{ before := roster, act }]))
    (each : streams.Each fun media source => source.owner = some member.owner ∧
      Credited (past ++ [{ before := roster, act }]) media source) :
    roster.Answers past act (base.route member.endpoint kind streams) where
  left := changed.route (each.mono fun _ _ both => both.2) member.endpoint kind
  told := by
    intro origin named other otherPresent same update told
    have itself : other = member := by
      rw [changes] at named
      cases named
      exact distinct.eq_of_endpoint_eq otherPresent present same
    rw [streams_of_mem_route told, itself]
    exact each.mono fun _ _ both => both.1
  flushed := by
    intro nobody
    rw [changes] at nobody
    cases nobody

theorem answers_silently {act : RosterAct} {next : Roster} (nobody : act.origin? = none)
    (left : next.Attributed (past ++ [{ before := roster, act }])) :
    roster.Answers past act ([], next) where
  left := left
  told := by
    intro origin named
    rw [nobody] at named
    cases named
  flushed := fun _ _ told => nomatch told

theorem answers_add (attributed : roster.Attributed past) {member : Participant}
    (free : ∀ other ∈ roster.members, other.endpoint ≠ member.endpoint)
    (bare : RosterAct.JoinsBare (.call (.add member))) :
    roster.Answers past (.call (.add member)) ([], ⟨roster.members ++ [member]⟩) := by
  obtain ⟨noStreams, noAdd, noRemove⟩ := bare
  refine answers_silently rfl ⟨distinct_append attributed.distinct free, fun other present => ?_⟩
  rcases List.mem_append.mp present with old | new
  · exact (attributed.members other old).later _
  · rw [List.mem_singleton.mp new]
    refine ⟨?_, ?_, fun kind => ?_⟩
    · rw [noStreams]
      exact Streams.each_empty
    · rw [noStreams]
      exact Streams.each_empty
    · cases kind
      · rw [Participant.pending, noAdd]
        exact Streams.each_empty
      · rw [Participant.pending, noRemove]
        exact Streams.each_empty

theorem answers_announce (attributed : roster.Attributed past) {member : Participant}
    (present : member ∈ roster.members) (streams : Streams) :
    let stamped := streams.withOwner member.owner
    roster.Answers past (.call (.announce member.endpoint streams))
      ((roster.replace (member.addStreams stamped)).route member.endpoint .add stamped) := by
  intro stamped
  let act : RosterAct := .call (.announce member.endpoint streams)
  have later := attributed.later { before := roster, act }
  have brings : act.brought? = some (member.endpoint, streams.sources) := rfl
  have told := stamped_each past act streams present brings fun _ _ named => named
  -- What the member takes in is stamped once more.
  have held := stamped_each past act stamped present brings
    fun media ssrc named => streams.contains_withOwner member.owner media ssrc ▸ named
  have changed := (later.members member present).gains (member.addStreams stamped) rfl rfl rfl
    rfl held
  exact answers_route attributed.distinct present rfl (later.replace changed) told

theorem answers_remove (attributed : roster.Attributed past) {member : Participant}
    (present : member ∈ roster.members) :
    roster.Answers past (.call (.remove member.endpoint))
      ((roster.without member.endpoint).route member.endpoint .remove member.own) := by
  have later := attributed.later { before := roster, act := .call (.remove member.endpoint) }
  have whole := later.members member present
  refine answers_route attributed.distinct present rfl
    ⟨distinct_without attributed.distinct _, fun other stays => ?_⟩ fun media source held => ?_
  · exact later.members other (List.mem_of_mem_filter stays)
  · exact ⟨whole.owned media source held, whole.brought media source held⟩

theorem answers_establish (attributed : roster.Attributed past) {member : Participant}
    (present : member ∈ roster.members) (session : SessionHandle) :
    roster.Answers past (.call (.establish member.endpoint session))
      ((member.flush session).1, roster.replace (member.flush session).2) where
  left := by
    obtain ⟨_, flushed⟩ := (attributed.members member present).flush session
    exact (attributed.replace flushed).later _
  told := fun _ named => nomatch named
  flushed := fun _ => ((attributed.members member present).flush session).1

theorem answers_perform (attributed : roster.Attributed past) {act : RosterAct}
    (bare : act.JoinsBare) {result : List SourceUpdate × Roster}
    (success : roster.perform act = .ok result) : roster.Answers past act result := by
  have later := attributed.later { before := roster, act }
  cases act with
  | call call =>
      cases handled_of_handle success with
      | add member free => exact answers_add attributed free bare
      | announce member present streams => exact answers_announce attributed present streams
      | retract member present streams =>
          obtain ⟨gone, left⟩ := (later.members member present).withdraw streams
          exact answers_route attributed.distinct present rfl (later.replace left) gone
      | remove member present => exact answers_remove attributed present
      | establish member present session => exact answers_establish attributed present session
      | dropSession member present =>
          have dropped := (later.members member present).withSession none
          exact answers_silently rfl (later.replace dropped)
  | importAnswer endpoint contents =>
      obtain ⟨member, present, rfl, outcome⟩ := get_bind_eq_ok success
      cases outcome
      have stamped := stamped_each past (.importAnswer member.endpoint contents)
        (Streams.ofContents contents) present rfl fun _ _ named => named
      have changed := (later.members member present).gains (member.importAnswer contents).2 rfl
        rfl rfl rfl (stamped.diff member.own)
      exact answers_silently rfl (later.replace changed)
  | addStreams endpoint streams =>
      obtain ⟨member, present, rfl, outcome⟩ := get_bind_eq_ok success
      cases outcome
      have stamped := stamped_each past (.addStreams member.endpoint streams) streams present
        rfl fun _ _ named => named
      have changed := (later.members member present).gains (member.addStreams streams) rfl rfl
        rfl rfl stamped
      exact answers_silently rfl (later.replace changed)

theorem attributed_after {acts : List RosterAct} (bare : ∀ act ∈ acts, act.JoinsBare) :
    (after {} acts).Attributed (events {} acts) := by
  induction acts using List.reverseRecOn with
  | nil => exact ⟨List.nodup_nil, fun _ present => nomatch present⟩
  | append_singleton acts act ih =>
      obtain ⟨before, last⟩ := List.forall_mem_append.mp bare
      have attributed := ih before
      rw [after_concat, events_concat, advance]
      cases outcome : (after {} acts).perform act with
      | error cause => exact attributed.later _
      | ok result =>
          exact (answers_perform attributed (last act (List.mem_singleton_self act)) outcome).left

/-- Whoever a source is said to belong to when it arrives, a member holds it under its
own address, and the others are told of it under the address of the member whose
change they are told of.  What waits in a queue, what a new session is told, and what
all but one hold is under the address of a member that brought that very source. -/
theorem sources_carry_owners {acts : List RosterAct} (bare : ∀ act ∈ acts, act.JoinsBare) :
    let roster := after {} acts
    let past := events {} acts
    (∀ member ∈ roster.members,
        member.own.Each (fun _ source => source.owner = some member.owner) ∧
          ∀ kind, (member.pending kind).Each (Credited past)) ∧
      (∀ act updates next, roster.perform act = .ok (updates, next) →
        ∀ member ∈ roster.members, act.origin? = some member.endpoint →
          ∀ update ∈ updates,
            update.streams.Each fun _ source => source.owner = some member.owner) ∧
      (∀ endpoint session updates next,
        roster.perform (.call (.establish endpoint session)) = .ok (updates, next) →
          ∀ update ∈ updates, update.streams.Each (Credited past)) ∧
      ∀ endpoint, (roster.streamsExcept endpoint).Each (Credited past) := by
  intro roster past
  have attributed : roster.Attributed past := attributed_after bare
  refine ⟨fun member present => ?_, ?_, ?_, fun endpoint => ?_⟩
  · have whole := attributed.members member present
    exact ⟨whole.owned, whole.queued⟩
  · intro act updates next success member present origin update told
    have joins := RosterAct.joinsBare_of_origin? origin
    exact (answers_perform attributed joins success).told member.endpoint origin member present
      rfl update told
  · intro endpoint session updates next success update told
    have joins : RosterAct.JoinsBare (.call (.establish endpoint session)) := trivial
    exact (answers_perform attributed joins success).flushed rfl update told
  · refine Streams.Each.foldl_union Streams.each_empty fun streams listed => ?_
    obtain ⟨member, other, rfl⟩ := List.mem_map.mp listed
    exact (attributed.members member (List.mem_of_mem_filter other)).brought

open Simulation in
/-- Sources that are said to be somebody else's, some of them held already, are
announced to a member with a session and to one without. -/
theorem sources_carry_owners_of_forged_tags :
    let forged : Streams :=
      { sources := SourceSet.withOwner (Sample.sourceSet .video [1, 2]) (Sample.owner "mallory") }
    let acts : List RosterAct :=
      [.call (.add (Sample.participant "alice")), .call (.add (Sample.participant "bob")),
        .call (.add (Sample.participant "carol")),
        .call (.establish ⟨"carol"⟩ ⟨"session"⟩),
        .importAnswer ⟨"alice"⟩ [{ media := .video, sources := [Sample.camera 1] }],
        .call (.announce ⟨"alice"⟩ forged)]
    let roster := after {} acts
    let past := events {} acts
    let retraction : RosterAct := .call (.retract ⟨"alice"⟩ forged)
    ∃ alice ∈ roster.members, ∃ bob ∈ roster.members,
      alice.own.Each (fun _ source => source.owner = some alice.owner) ∧
        bob.pendingAdd.isEmpty = false ∧ bob.pendingAdd.Each (Credited past) ∧
        (∃ updates next, roster.perform retraction = .ok (updates, next) ∧ updates.length = 1 ∧
          ∀ update ∈ updates,
            update.streams.Each fun _ source => source.owner = some alice.owner) ∧
        ∃ updates next,
          roster.perform (.call (.establish ⟨"bob"⟩ ⟨"late"⟩)) = .ok (updates, next) ∧
            updates.length = 1 ∧ ∀ update ∈ updates, update.streams.Each (Credited past) := by
  intro forged acts roster past retraction
  have bare : ∀ act ∈ acts, act.JoinsBare := by decide
  obtain ⟨held, told, flushed, _⟩ := sources_carry_owners bare
  have alice : roster.members[0] ∈ roster.members := List.getElem_mem _
  have bob : roster.members[1] ∈ roster.members := List.getElem_mem _
  have performed (act : RosterAct)
      (counted : (roster.perform act).toOption.map (·.1.length) = some 1) :
      ∃ updates next, roster.perform act = .ok (updates, next) ∧ updates.length = 1 := by
    cases outcome : roster.perform act with
    | error cause => simp [outcome, Except.toOption] at counted
    | ok result =>
        exact ⟨result.1, result.2, rfl, by simpa [outcome, Except.toOption] using counted⟩
  obtain ⟨gone, next, retracted, goneOnce⟩ := performed retraction (by decide)
  obtain ⟨late, last, established, lateOnce⟩ :=
    performed (.call (.establish ⟨"bob"⟩ ⟨"late"⟩)) (by decide)
  refine ⟨_, alice, _, bob, (held _ alice).1, by decide, (held _ bob).2 .add, ?_, ?_⟩
  · exact ⟨gone, next, retracted, goneOnce, told retraction gone next retracted _ alice (by decide)⟩
  · exact ⟨late, last, established, lateOnce, flushed _ _ _ _ established⟩

end Roster

end ConferenceFocus
