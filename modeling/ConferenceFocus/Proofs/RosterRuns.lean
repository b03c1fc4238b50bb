import Mathlib.Data.List.DropRight
import ConferenceFocus.Proofs.RosterChanges

/-!
# Runs of a roster

What a list of calls leads to from an empty roster.  What a peer has heard of
one item can be followed along the run without the set of all it has heard, and
so be computed.
-/

namespace ConferenceFocus

namespace Signaling

/-- What a run of calls leads to, from an empty roster. -/
def after (calls : List RosterCall) : Signaling :=
  calls.foldl step {}

theorem after_concat (calls : List RosterCall) (call : RosterCall) :
    after (calls ++ [call]) = (after calls).step call := by
  rw [after, after, List.foldl_append, List.foldl_cons, List.foldl_nil]

theorem distinct_step {signaling : Signaling} (distinct : signaling.roster.Distinct)
    (call : RosterCall) : (signaling.step call).roster.Distinct := by
  unfold step
  cases outcome : signaling.roster.handle call with
  | error cause => exact distinct
  | ok result => exact Roster.distinct_handled distinct (Roster.handled_of_handle outcome)

theorem distinct_after (calls : List RosterCall) : (after calls).roster.Distinct := by
  induction calls using List.reverseRecOn with
  | nil => exact List.nodup_nil
  | append_singleton calls call distinct =>
      rw [after_concat]
      exact distinct_step distinct call

section Tracking

variable {signaling : Signaling} {endpoint : EndpointId} {item : StreamItem}

/-- Whether a peer has heard of an item, one update later. -/
def noted (endpoint : EndpointId) (item : StreamItem) (heard : Bool) (update : SourceUpdate) :
    Bool :=
  if update.target = endpoint ∧ item ∈ update.streams.items then update.kind = .add else heard

/-- Whether the peer of a member that has just joined, or of another, has heard of an item. -/
def greeted (endpoint : EndpointId) (item : StreamItem) (tracked : Roster × Bool) :
    RosterCall → Bool
  | .add member =>
      if member.endpoint = endpoint then
        decide (item ∈ (tracked.1.streamsExcept endpoint).items)
      else tracked.2
  | _ => tracked.2

/-- `step` as far as one item and one peer are concerned. -/
def track (endpoint : EndpointId) (item : StreamItem) (tracked : Roster × Bool)
    (call : RosterCall) : Roster × Bool :=
  match tracked.1.handle call with
  | .error _ => tracked
  | .ok result =>
      (result.2, result.1.foldl (noted endpoint item) (greeted endpoint item tracked call))

/-- What is tracked agrees with the state. -/
def Agrees (signaling : Signaling) (endpoint : EndpointId) (item : StreamItem)
    (tracked : Roster × Bool) : Prop :=
  tracked.1 = signaling.roster ∧ (tracked.2 = true ↔ item ∈ signaling.heard endpoint)

theorem foldl_noted (updates : List SourceUpdate) {heard : EndpointId → Set StreamItem}
    {known : Bool} (agrees : known = true ↔ item ∈ heard endpoint) :
    updates.foldl (noted endpoint item) known = true ↔
      item ∈ updates.foldl deliver heard endpoint := by
  induction updates generalizing heard known with
  | nil => exact agrees
  | cons update rest ih =>
      refine ih ?_
      unfold noted deliver
      by_cases addressed : update.target = endpoint
      · subst addressed
        rw [Function.update_self]
        cases kind : update.kind <;> by_cases named : item ∈ update.streams.items <;>
          simp [named, agrees, ChangeKind.on]
      · rw [if_neg (fun both => addressed both.1), Function.update_of_ne (Ne.symm addressed)]
        exact agrees

theorem Agrees.track {tracked : Roster × Bool} (agrees : signaling.Agrees endpoint item tracked)
    (call : RosterCall) :
    (signaling.step call).Agrees endpoint item (track endpoint item tracked call) := by
  obtain ⟨roster, known⟩ := tracked
  obtain ⟨rfl, heard⟩ := agrees
  unfold step Signaling.track
  cases signaling.roster.handle call with
  | error cause => exact ⟨rfl, heard⟩
  | ok result =>
      refine ⟨rfl, foldl_noted result.1 ?_⟩
      cases call with
      | add member =>
          unfold greeted welcome
          by_cases own : member.endpoint = endpoint
          · subst own
            simp
          · simpa [own, Function.update_of_ne (Ne.symm own)] using heard
      | announce | retract | remove | establish | dropSession => exact heard

theorem agrees_after (endpoint : EndpointId) (item : StreamItem) (calls : List RosterCall) :
    (after calls).Agrees endpoint item (calls.foldl (track endpoint item) ({}, false)) := by
  induction calls using List.reverseRecOn with
  | nil => exact ⟨rfl, by simp [after]⟩
  | append_singleton calls call ih =>
      rw [after_concat, List.foldl_append]
      exact ih.track call

instance (calls : List RosterCall) (endpoint : EndpointId) (item : StreamItem) :
    Decidable (item ∈ (after calls).heard endpoint) :=
  decidable_of_iff ((calls.foldl (track endpoint item) ({}, false)).2 = true)
    (agrees_after endpoint item calls).2

end Tracking

end Signaling

end ConferenceFocus
