import ConferenceFocus.Proofs.ParticipantStreams

/-!
# Net effect of what is queued

Item by item, the two queues of a participant act as one marker: an item waits
to be added, waits to be removed, or does not wait at all.  The marker can be
computed from the calls alone, and of these only from the ones that name the
item or empty a queue.
-/

namespace ConferenceFocus

namespace ChangeKind

def opposite : ChangeKind → ChangeKind
  | add => remove
  | remove => add

theorem opposite_ne (kind : ChangeKind) : kind.opposite ≠ kind := by
  cases kind <;> exact ChangeKind.noConfusion

@[simp] theorem opposite_opposite (kind : ChangeKind) : kind.opposite.opposite = kind := by
  cases kind <;> rfl

theorem eq_or_eq_opposite (kind other : ChangeKind) : other = kind ∨ other = kind.opposite := by
  cases kind <;> cases other <;> simp [opposite]

end ChangeKind

/-- What can be done to the queues of a participant. -/
inductive QueueCall where
  | schedule (kind : ChangeKind) (streams : Streams)
  | clear (kind : ChangeKind)
  /-- Empties a queue like `clear`, and hands out what was in it. -/
  | take (kind : ChangeKind)

namespace QueueCall

/-- What an item waits for after a call.  To schedule the change it waits for
leaves it waiting, to schedule the opposite cancels. -/
def net (item : StreamItem) (waiting : Option ChangeKind) : QueueCall → Option ChangeKind
  | schedule kind streams =>
      if item ∈ streams.items then
        match waiting with
        | none => some kind
        | some queued => if queued = kind then some kind else none
      else waiting
  | clear kind | take kind => if waiting = some kind then none else waiting

/-- Whether a call names an item or empties a queue. -/
def concerns (item : StreamItem) : QueueCall → Bool
  | schedule _ streams => decide (item ∈ streams.items)
  | clear _ | take _ => true

section Net

variable {item : StreamItem} {waiting : Option ChangeKind} {kind : ChangeKind} {streams : Streams}

theorem net_schedule_eq_kind :
    (schedule kind streams).net item waiting = some kind ↔
      waiting = some kind ∨ item ∈ streams.items ∧ waiting ≠ some kind.opposite := by
  by_cases named : item ∈ streams.items
  · cases waiting with
    | none => simp [net, named]
    | some queued =>
        rcases kind.eq_or_eq_opposite queued with rfl | rfl
        · simp [net, named]
        · simp [net, named, kind.opposite_ne]
  · simp [net, named]

theorem net_schedule_eq_opposite :
    (schedule kind streams).net item waiting = some kind.opposite ↔
      waiting = some kind.opposite ∧ item ∉ streams.items := by
  have different := kind.opposite_ne
  by_cases named : item ∈ streams.items
  · cases waiting with
    | none => simp [net, named, different.symm]
    | some queued =>
        by_cases same : queued = kind <;> simp [net, named, same, different.symm]
  · simp [net, named]

theorem net_of_not_concerns {call : QueueCall} (unconcerned : call.concerns item = false) :
    call.net item waiting = waiting := by
  cases call with
  | schedule kind streams => exact if_neg (of_decide_eq_false unconcerned)
  | clear kind => cases unconcerned
  | take kind => cases unconcerned

theorem foldl_net_filter (item : StreamItem) (calls : List QueueCall)
    (waiting : Option ChangeKind) :
    (calls.filter (·.concerns item)).foldl (net item) waiting =
      calls.foldl (net item) waiting := by
  induction calls generalizing waiting with
  | nil => rfl
  | cons call rest ih =>
      cases concerned : call.concerns item with
      | true =>
          rw [List.filter_cons_of_pos concerned, List.foldl_cons, List.foldl_cons]
          exact ih _
      | false =>
          rw [List.filter_cons_of_neg (Bool.eq_false_iff.mp concerned), List.foldl_cons,
            net_of_not_concerns concerned]
          exact ih waiting

end Net

end QueueCall

namespace Participant

/-- A member after a call on its queues. -/
def queue (member : Participant) : QueueCall → Participant
  | .schedule kind streams => member.schedule kind streams
  | .clear kind => member.clearPending kind
  | .take kind => (member.takePending kind).2

section Items

variable (member : Participant) (kind other : ChangeKind) (streams : Streams)

theorem items_pending_schedule :
    ((member.schedule kind streams).pending kind).items =
      (member.pending kind).items ∪ (streams.items \ (member.pending kind.opposite).items) := by
  cases kind with
  | add => exact member.items_pendingAdd_scheduleAdd streams
  | remove => exact member.items_pendingRemove_scheduleRemove streams

theorem items_pending_opposite_schedule :
    ((member.schedule kind streams).pending kind.opposite).items =
      (member.pending kind.opposite).items \ streams.items := by
  cases kind with
  | add => exact member.items_pendingRemove_scheduleAdd streams
  | remove => exact member.items_pendingAdd_scheduleRemove streams

theorem items_pending_clearPending :
    ((member.clearPending kind).pending other).items =
      if kind = other then ∅ else (member.pending other).items := by
  cases kind <;> cases other <;> simp [clearPending, pending]

/-- Taking an empty queue does nothing, and clearing it would do nothing either. -/
theorem items_pending_takePending :
    ((member.takePending kind).2.pending other).items =
      ((member.clearPending kind).pending other).items := by
  unfold takePending
  by_cases empty : (member.pending kind).isEmpty = true
  · rw [if_pos empty, items_pending_clearPending]
    by_cases same : kind = other
    · subst same
      rw [if_pos rfl, Streams.isEmpty_iff_items.mp empty]
    · rw [if_neg same]
  · rw [if_neg empty]

end Items

/-- The queues hold an item exactly as far as it waits. -/
def Marks (member : Participant) (item : StreamItem) (waiting : Option ChangeKind) : Prop :=
  ∀ kind, item ∈ (member.pending kind).items ↔ waiting = some kind

namespace Marks

variable {member : Participant} {item : StreamItem} {waiting : Option ChangeKind}

theorem schedule (marks : member.Marks item waiting) (kind : ChangeKind) (streams : Streams) :
    (member.schedule kind streams).Marks item
      ((QueueCall.schedule kind streams).net item waiting) := by
  intro other
  rcases kind.eq_or_eq_opposite other with rfl | rfl
  · rw [items_pending_schedule, Set.mem_union, Set.mem_sdiff, marks, marks,
      QueueCall.net_schedule_eq_kind]
  · rw [items_pending_opposite_schedule, Set.mem_sdiff, marks,
      QueueCall.net_schedule_eq_opposite]

theorem clear (marks : member.Marks item waiting) (kind : ChangeKind) :
    (member.clearPending kind).Marks item (if waiting = some kind then none else waiting) := by
  intro other
  rw [items_pending_clearPending]
  by_cases same : kind = other
  · subst same
    by_cases queued : waiting = some kind <;> simp [queued]
  · rw [if_neg same, marks other]
    by_cases queued : waiting = some kind <;> simp [queued, same]

theorem queue (marks : member.Marks item waiting) (call : QueueCall) :
    (member.queue call).Marks item (call.net item waiting) := by
  cases call with
  | schedule kind streams => exact marks.schedule kind streams
  | clear kind => exact marks.clear kind
  | take kind =>
      intro other
      rw [Participant.queue, items_pending_takePending]
      exact marks.clear kind other

theorem foldl_queue (marks : member.Marks item waiting) (calls : List QueueCall) :
    (calls.foldl Participant.queue member).Marks item
      (calls.foldl (QueueCall.net item) waiting) := by
  induction calls generalizing member waiting with
  | nil => exact marks
  | cons call rest ih => exact ih (marks.queue call)

end Marks

theorem marks_new (endpoint : EndpointId) (owner : String) (item : StreamItem) :
    Marks { endpoint, owner } item none := by
  intro kind
  cases kind <;> simp [pending]

/-- After any calls on the queues of a new participant, nothing is in both; an
item waits for what the calls come to when each of them is taken by its net
effect, and of the calls only those count that name the item or empty a queue. -/
theorem queues_net_out (endpoint : EndpointId) (owner : String) (calls : List QueueCall)
    (item : StreamItem) :
    let member := calls.foldl queue { endpoint, owner }
    let waiting (made : List QueueCall) := made.foldl (QueueCall.net item) none
    ¬ (item ∈ member.pendingAdd.items ∧ item ∈ member.pendingRemove.items) ∧
      (∀ kind, item ∈ (member.pending kind).items ↔ waiting calls = some kind) ∧
      waiting calls = waiting (calls.filter (·.concerns item)) := by
  intro member waiting
  have marks : member.Marks item (waiting calls) :=
    (marks_new endpoint owner item).foldl_queue calls
  refine ⟨?_, marks, (QueueCall.foldl_net_filter item calls none).symm⟩
  rintro ⟨queuedAdd, queuedRemove⟩
  have both := ((marks .add).mp queuedAdd).symm.trans ((marks .remove).mp queuedRemove)
  cases both

end Participant

end ConferenceFocus
