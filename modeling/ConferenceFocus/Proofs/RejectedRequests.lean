import ConferenceFocus.Proofs.BridgeRequests

/-!
# What a rejected request leaves behind

A bridge looks at all that a request names before it carries anything out, so that no
request takes effect in part.  The conference for a request that names none is opened
before the bridge looks, and it stays when the request is rejected.
-/

namespace ConferenceFocus.Simulation

open Colibri Control

namespace HostedConference

variable {hosted : HostedConference} {request : Request}

/-- Whether a request names, other than to expire it, something that a conference lacks. -/
def Misses (hosted : HostedConference) (request : Request) : Prop :=
  ∃ entry ∈ request.conference.entries, ∃ name,
    entry.name? = some name ∧ entry.expire? ≠ some 0 ∧ hosted.knows name = false

theorem isSome_unknownId?_iff :
    (hosted.unknownId? request.conference.contents).isSome ↔ hosted.Misses request := by
  simp only [unknownId?, List.find?_isSome, mem_requiredIds, Bool.not_eq_true']
  constructor
  · rintro ⟨name, ⟨entry, asked, named, lasts⟩, unknown⟩
    exact ⟨entry, asked, name, named, lasts, unknown⟩
  · rintro ⟨entry, asked, name, named, lasts, unknown⟩
    exact ⟨name, ⟨entry, asked, named, lasts⟩, unknown⟩

end HostedConference

namespace SimulatedBridge

variable {supply : Nat → String} {bridge : SimulatedBridge} {request : Request}

/-- A bridge rejects a request if it does not host the conference, or if the conference lacks
something.  One that is opened for a request lacks all that the request names. -/
def Rejects (bridge : SimulatedBridge) (request : Request) : Prop :=
  match request.conference.id with
  | some id => ∀ hosted, bridge.conference? id = some hosted → hosted.Misses request
  | none =>
      ∃ entry ∈ request.conference.entries, entry.name? ≠ none ∧ entry.expire? ≠ some 0

/-- A bridge to which nothing has happened but that a request was received and, if it names no
conference, that one was opened. -/
def afterRejection (supply : Nat → String) (request : Request) (bridge : SimulatedBridge) :
    SimulatedBridge :=
  let noted : SimulatedBridge := { bridge with received := bridge.received ++ [request] }
  match request.conference.id with
  | some _ => noted
  | none =>
      { noted with
        conferences := bridge.conferences ++ [{ id := ⟨supply bridge.minted⟩ }],
        minted := bridge.minted + 1 }

theorem error_process_iff :
    (∃ condition, (bridge.process supply request).1 = .error condition) ↔
      ∀ hosted, (bridge.arrival supply request).2.conference?
        (bridge.arrival supply request).1 = some hosted → hosted.Misses request := by
  cases found : (bridge.arrival supply request).2.conference?
      (bridge.arrival supply request).1 with
  | none =>
      unfold arrival at found
      simp [process, found, notFound]
  | some hosted =>
      simp only [Option.some.injEq, forall_eq', ← HostedConference.isSome_unknownId?_iff]
      unfold arrival at found
      cases unknown : hosted.unknownId? request.conference.contents <;>
        simp [process, found, unknown, notFound]

theorem Processed.eq_arrival_of_error {condition : ErrorCondition} {after : SimulatedBridge}
    (processed : Processed supply request bridge (.error condition, after)) :
    after = (bridge.arrival supply request).2 := by
  cases processed
  rfl

/-- A conference that is opened for a request gets a name that no other has. -/
def FreshFor (supply : Nat → String) (request : Request) (bridge : SimulatedBridge) : Prop :=
  request.conference.id = none →
    ∀ hosted ∈ bridge.conferences, hosted.id ≠ ⟨supply bridge.minted⟩

section Arriving

variable (fresh : bridge.FreshFor supply request)

include fresh

theorem not_holds_of_freshFor (anonymous : request.conference.id = none) :
    ¬ Keyed.holds bridge.conferences (⟨supply bridge.minted⟩ : ConferenceId) = true := by
  intro taken
  obtain ⟨hosted, present, sameId⟩ := Keyed.holds_iff.mp taken
  exact fresh anonymous hosted present sameId

theorem arrival_eq_afterRejection :
    (bridge.arrival supply request).2 = bridge.afterRejection supply request := by
  cases asked : request.conference.id with
  | some id => simp only [arrival_of_id bridge supply asked, afterRejection, asked]
  | none =>
      have opened : Keyed.append bridge.conferences { id := ⟨supply bridge.minted⟩ } =
          bridge.conferences ++ [{ id := ⟨supply bridge.minted⟩ }] :=
        Keyed.append_of_not_holds (not_holds_of_freshFor fresh asked)
      simp only [arrival, locate, afterRejection, asked, opened]

theorem rejects_iff :
    bridge.Rejects request ↔
      ∀ hosted, (bridge.arrival supply request).2.conference?
        (bridge.arrival supply request).1 = some hosted → hosted.Misses request := by
  unfold Rejects
  cases asked : request.conference.id with
  | some id =>
      rw [arrival_of_id bridge supply asked]
      rfl
  | none =>
      let id : ConferenceId := ⟨supply bridge.minted⟩
      have untaken : Keyed.find? bridge.conferences id = none := by
        have free := not_holds_of_freshFor fresh asked
        rwa [← Keyed.isSome_find?, Option.not_isSome_iff_eq_none] at free
      have opened : (bridge.arrival supply request).2.conference?
          (bridge.arrival supply request).1 = some { id } := by
        simp only [arrival, locate, asked, conference?, Keyed.find?_append, id, untaken,
          Option.none_or]
        exact if_pos rfl
      simp only [opened, Option.some.injEq, forall_eq', HostedConference.Misses, knows_opened,
        and_true, Option.ne_none_iff_exists', exists_and_right]

end Arriving

/-- A bridge answers with an error just if it does not host the conference of a request or
that lacks something.  Nothing of the request is carried out then, and the bridge hosts what
it hosted before if, and only if, the request names a conference: for one that names none, an
empty conference stays. -/
theorem rejection_keeps_iff_named (online : bridge.offline = false)
    (fresh : bridge.FreshFor supply request) :
    ((∃ condition, (bridge.ask supply request).1 = .answered (.error condition)) ↔
        bridge.Rejects request) ∧
      ∀ condition after, bridge.ask supply request = (.answered (.error condition), after) →
        after = bridge.afterRejection supply request ∧
          (after.conferences = bridge.conferences ↔ request.conference.id ≠ none) := by
  have asked : bridge.ask supply request =
      (.answered (bridge.process supply request).1, (bridge.process supply request).2) := by
    simp [ask, online]
  have processed := processed bridge supply request
  rw [asked]
  refine ⟨?_, fun condition after answer => ?_⟩
  · rw [rejects_iff fresh, ← error_process_iff]
    simp only [Delivery.answered.injEq]
  · have outcome : bridge.process supply request = (.error condition, after) := by
      simpa [Prod.ext_iff] using answer
    rw [outcome] at processed
    have left := processed.eq_arrival_of_error.trans (arrival_eq_afterRejection fresh)
    refine ⟨left, ?_⟩
    rw [left]
    cases named : request.conference.id <;> simp [afterRejection, named]

/-- The request ends one channel, asks for another and then names a connection that its
conference lacks.  Without the name of the conference it is rejected for the channel that is
to stay, and a conference is opened beside the one that is hosted. -/
theorem rejection_keeps_iff_named_of_mixed_request :
    let hosted : HostedConference :=
      { id := ⟨"c1"⟩, channels := [{ id := "a1", media := .audio }],
        connections := [{ id := "s1" }] }
    let bridge : SimulatedBridge := { conferences := [hosted] }
    let request : Request :=
      { bridge := address, seq := 1,
        conference :=
          { id := some ⟨"c1"⟩,
            contents :=
              [{ media := .audio, channels := [{ id := some "a1", expire := some 0 }, {}] },
                { media := .data,
                  connections := [{ id := some "s1" }, { id := some "ghost" }] }] } }
    let anonymous : Request :=
      { request with conference := { request.conference with id := none } }
    bridge.offline = false ∧
      (bridge.FreshFor tally request ∧ bridge.Rejects request ∧
        ∃ condition after, bridge.ask tally request = (.answered (.error condition), after) ∧
          after = { bridge with received := [request] }) ∧
      bridge.FreshFor tally anonymous ∧ bridge.Rejects anonymous ∧
        ∃ condition after, bridge.ask tally anonymous = (.answered (.error condition), after) ∧
          after =
            { conferences := [hosted, { id := ⟨tally 0⟩ }], received := [anonymous], minted := 1 } ∧
          after.conferences ≠ bridge.conferences := by
  intro hosted bridge request anonymous
  have fresh : bridge.FreshFor tally request := nofun
  obtain ⟨rejects, keeps⟩ := rejection_keeps_iff_named rfl fresh
  have answer : bridge.ask tally request =
      (.answered (notFound "channel ghost"), { bridge with received := [request] }) := by
    decide
  have anonymousFresh : bridge.FreshFor tally anonymous := fun _ => by decide
  obtain ⟨anonymousRejects, opens⟩ := rejection_keeps_iff_named rfl anonymousFresh
  have anonymousAnswer : bridge.ask tally anonymous =
      (.answered (notFound "channel s1"),
        { conferences := [hosted, { id := ⟨tally 0⟩ }], received := [anonymous],
          minted := 1 }) := by
    decide
  refine ⟨rfl, ⟨fresh, rejects.mp ⟨_, congrArg Prod.fst answer⟩, _, _, answer,
    (keeps _ _ answer).1⟩, anonymousFresh,
    anonymousRejects.mp ⟨_, congrArg Prod.fst anonymousAnswer⟩, _, _, anonymousAnswer,
    (opens _ _ anonymousAnswer).1, fun same => ?_⟩
  exact (opens _ _ anonymousAnswer).2.mp same rfl

/-- A request that names no conference but a channel is rejected, and a conference has been
opened for it. -/
theorem rejected_request_opens_conference :
    let request : Request :=
      { bridge := address, seq := 1,
        conference := { contents := [{ media := .audio, channels := [{ id := some "ghost" }] }] } }
    let bridge : SimulatedBridge := {}
    let (delivery, after) := bridge.ask tally request
    delivery = .answered (notFound "channel ghost") ∧
      after.conferences ≠ bridge.conferences ∧ after.conferences = [{ id := ⟨tally 0⟩ }] := by
  decide

end SimulatedBridge

end ConferenceFocus.Simulation
