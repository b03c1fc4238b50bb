import Mathlib.Data.List.Induction
import Mathlib.Data.List.Nodup
import ConferenceFocus.Proofs.BridgeRequests
import ConferenceFocus.Proofs.SendingConditions
import ConferenceFocus.Simulation.Sample
import ConferenceFocus.Simulation.ScriptedBridge

/-!
# Sequence numbers

A tape on a link notes every request as it is handed over, with whether the far
end refused it.  On the tape of a run the numbers count up from one without a
gap, so that the far end, which keeps what it does not refuse, misses a number
only where it refused a request.
-/

namespace ConferenceFocus.Control

open Colibri

def Delivery.isRefusal : Delivery → Bool
  | .refused _ => true
  | .answered _ | .silence => false

/-- A request that was handed over, and whether the far end refused it. -/
structure Sending where
  request : Request
  refused : Bool
  deriving DecidableEq, Repr

namespace Link

variable {σ : Type}

/-- The same link, with a tape on which requests are noted in the order of sending. -/
def taped (link : Link σ) : Link (σ × List Sending) where
  ask request peer :=
    let (delivery, after) := link.ask request peer.1
    (delivery, after, peer.2 ++ [{ request, refused := delivery.isRefusal }])
  post request peer :=
    let (refusal, after) := link.post request peer.1
    (refusal, after, peer.2 ++ [{ request, refused := refusal.isSome }])

/-- The far end records a request exactly if it does not refuse it. -/
structure Records (link : Link σ) (received : σ → List Request) : Prop where
  ask : ∀ request peer, received (link.ask request peer).2 =
    received peer ++ if (link.ask request peer).1.isRefusal then [] else [request]
  post : ∀ request peer, received (link.post request peer).2 =
    received peer ++ if (link.post request peer).1.isSome then [] else [request]

end Link

end ConferenceFocus.Control

namespace ConferenceFocus.Simulation

open Colibri Control

theorem ScriptedBridge.link_records :
    ScriptedBridge.link.Records fun bridge => bridge.received.map (·.request) where
  ask := by
    rintro request ⟨replies, refusesPosts, received⟩
    rcases replies with _ | ⟨reply, rest⟩
    · simp [link, ask, record, Delivery.isRefusal]
    · cases reply <;> simp [link, ask, record, Delivery.isRefusal]
  post := by
    rintro request ⟨replies, refusesPosts, received⟩
    cases refusesPosts <;> simp [link, post, record]

theorem SimulatedBridge.link_records (supply : Nat → String) :
    (SimulatedBridge.link supply).Records (·.received) where
  ask := by
    intro request bridge
    have received := received_processed (bridge.processed supply request)
    cases offline : bridge.offline <;> simp [link, ask, offline, Delivery.isRefusal, received]
  post := by
    intro request bridge
    have received := received_processed (bridge.processed supply request)
    cases offline : bridge.offline <;> simp [link, post, offline, received]

end ConferenceFocus.Simulation

namespace ConferenceFocus.Control

open Colibri

namespace Controller

section Tape

variable {σ : Type} (link : Link σ) (controller : Controller) (peer : σ)

/-- Handles calls over a link, one after the other. -/
def calls (calls : List Call) : Controller × σ :=
  calls.foldl
    (fun current call =>
      let (turn, after) := current.1.call link current.2 call
      (turn.controller, after))
    (controller, peer)

/-- What is handed over while calls are handled, as a tape on the link shows it. -/
def sendings (calls : List Call) : List Sending :=
  (controller.calls link.taped (peer, []) calls).2.2

theorem calls_concat (calls : List Call) (call : Call) :
    controller.calls link peer (calls ++ [call]) =
      let (reached, met) := controller.calls link peer calls
      ((reached.call link met call).1.controller, (reached.call link met call).2) := by
  simp [Controller.calls]

/-- A tape does not disturb a call, and notes the request of the call if there is one. -/
theorem call_taped (tape : List Sending) (call : Call) :
    ∃ sent : Option Sending,
      controller.call link.taped (peer, tape) call =
        ((controller.call link peer call).1, (controller.call link peer call).2,
          tape ++ sent.toList) ∧
      sent.map (·.request) = (controller.handle call).request? ∧
      ∀ received, link.Records received →
        received (controller.call link peer call).2 =
          received peer ++ (sent.toList.filter (!·.refused)).map (·.request) := by
  unfold Controller.call
  cases controller.handle call with
  | finished turn => exact ⟨none, by simp [Exchange.run], rfl, by simp [Exchange.run]⟩
  | ask request resume =>
      refine ⟨some { request, refused := (link.ask request peer).1.isRefusal }, rfl, rfl,
        fun received records => (records.ask request peer).trans ?_⟩
      cases refused : (link.ask request peer).1.isRefusal <;> simp
  | post request resume =>
      refine ⟨some { request, refused := (link.post request peer).1.isSome }, rfl, rfl,
        fun received records => (records.post request peer).trans ?_⟩
      cases refused : (link.post request peer).1.isSome <;> simp

theorem calls_taped (calls : List Call) :
    controller.calls link.taped (peer, []) calls =
      ((controller.calls link peer calls).1, (controller.calls link peer calls).2,
        controller.sendings link peer calls) := by
  suffices undisturbed : ∃ tape, controller.calls link.taped (peer, []) calls =
      ((controller.calls link peer calls).1, (controller.calls link peer calls).2, tape) by
    obtain ⟨tape, same⟩ := undisturbed
    rw [sendings, same]
  induction calls using List.reverseRecOn with
  | nil => exact ⟨[], rfl⟩
  | append_singleton calls call ih =>
      obtain ⟨tape, same⟩ := ih
      obtain ⟨sent, noted, _⟩ := (controller.calls link peer calls).1.call_taped link
        (controller.calls link peer calls).2 tape call
      refine ⟨tape ++ sent.toList, ?_⟩
      simp only [calls_concat, same, noted]

/-- One more call adds its request to the tape, and no more than that. -/
theorem sendings_concat (calls : List Call) (call : Call) :
    ∃ sent : Option Sending,
      controller.sendings link peer (calls ++ [call]) =
        controller.sendings link peer calls ++ sent.toList ∧
      sent.map (·.request) = ((controller.calls link peer calls).1.handle call).request? ∧
      ∀ received, link.Records received →
        received (controller.calls link peer (calls ++ [call])).2 =
          received (controller.calls link peer calls).2 ++
            (sent.toList.filter (!·.refused)).map (·.request) := by
  obtain ⟨sent, noted, request, recorded⟩ := (controller.calls link peer calls).1.call_taped link
    (controller.calls link peer calls).2 (controller.sendings link peer calls) call
  refine ⟨sent, ?_, request, fun received records => ?_⟩
  · rw [sendings, calls_concat, calls_taped]
    simp only [noted]
  · rw [calls_concat]
    exact recorded received records

theorem received_calls {received : σ → List Request} (records : link.Records received)
    (calls : List Call) :
    received (controller.calls link peer calls).2 =
      received peer ++
        ((controller.sendings link peer calls).filter (!·.refused)).map (·.request) := by
  induction calls using List.reverseRecOn with
  | nil => simp [sendings, Controller.calls]
  | append_singleton calls call ih =>
      obtain ⟨sent, noted, _, recorded⟩ := controller.sendings_concat link peer calls call
      rw [recorded received records, ih, noted, List.filter_append, List.map_append,
        List.append_assoc]

/-- The controller's last number is how often it has sent, as far as that can be
counted, and the requests are numbered by their places on the tape. -/
theorem numbers_sendings (settings : Settings) (calls : List Call) :
    let tape := ({ settings } : Controller).sendings link peer calls
    (({ settings } : Controller).calls link peer calls).1.lastSeq = UInt64.ofNat tape.length ∧
      tape.map (·.request.seq) = (List.range' 1 tape.length).map UInt64.ofNat := by
  induction calls using List.reverseRecOn with
  | nil => exact ⟨rfl, rfl⟩
  | append_singleton calls call ih =>
      obtain ⟨last, numbered⟩ := ih
      obtain ⟨sent, noted, request, _⟩ :=
        ({ settings } : Controller).sendings_concat link peer calls call
      obtain ⟨delivery, refusal, settled⟩ :=
        (({ settings } : Controller).calls link peer calls).1.call_eq_turn link
          (({ settings } : Controller).calls link peer calls).2 call
      dsimp only
      rw [calls_concat, noted]
      dsimp only
      rw [settled]
      cases (({ settings } : Controller).calls link peer calls).1.conveys_handle call with
      | withheld idle unsent kept =>
          obtain rfl : sent = none := by simpa [unsent] using request
          refine ⟨(kept delivery refusal).trans ?_, ?_⟩
          · simpa using last
          · simpa using numbered
      | sent bridge intent composed next asked chosen composes handed taken =>
          obtain ⟨sending, rfl, rfl⟩ : ∃ sending, sent = some sending ∧
              sending.request = composed := by
            simpa [handed] using request
          have number : sending.request.seq = UInt64.ofNat
              ((({ settings } : Controller).sendings link peer calls).length + 1) := by
            rw [(lastSeq_of_compose composes).1, last, UInt64.ofNat_add]
            rfl
          refine ⟨(taken delivery refusal).trans ?_, ?_⟩
          · simpa using number
          · simp only [Option.toList_some, List.map_append, List.map_cons, List.map_nil,
              List.length_append, List.length_cons, List.length_nil, List.range'_concat, numbered,
              number]
            congr 3
            omega

section Bounded

variable (settings : Settings) (calls : List Call)
  (bounded : (({ settings } : Controller).sendings link peer calls).length < UInt64.size)

include bounded

theorem toNat_sendings :
    let tape := ({ settings } : Controller).sendings link peer calls
    tape.map (·.request.seq.toNat) = List.range' 1 tape.length := by
  intro tape
  have small (number : Nat) (counted : number ∈ List.range' 1 tape.length) :
      (UInt64.ofNat number).toNat = number := by
    have atMost : number ≤ tape.length := by
      have := (List.mem_range'_1.mp counted).2
      omega
    exact UInt64.toNat_ofNat_of_lt' (Nat.lt_of_le_of_lt atMost bounded)
  calc tape.map (·.request.seq.toNat)
      = (tape.map (·.request.seq)).map UInt64.toNat := by rw [List.map_map]; rfl
    _ = (List.range' 1 tape.length).map fun number => (UInt64.ofNat number).toNat := by
        rw [(numbers_sendings link peer settings calls).2, List.map_map]
        rfl
    _ = List.range' 1 tape.length := by
        rw [List.map_congr_left small, List.map_id']

theorem pairwise_sendings :
    (({ settings } : Controller).sendings link peer calls).Pairwise fun earlier later =>
      earlier.request.seq < later.request.seq := by
  have ordered := List.pairwise_lt_range' (s := 1)
    (n := (({ settings } : Controller).sendings link peer calls).length)
  rw [← toNat_sendings link peer settings calls bounded, List.pairwise_map] at ordered
  exact ordered.imp UInt64.lt_iff_toNat_lt.mpr

theorem eq_of_seq_eq {left right : Sending}
    (leftSent : left ∈ ({ settings } : Controller).sendings link peer calls)
    (rightSent : right ∈ ({ settings } : Controller).sendings link peer calls)
    (same : left.request.seq.toNat = right.request.seq.toNat) : left = right := by
  have distinct : ((({ settings } : Controller).sendings link peer calls).map
      (·.request.seq.toNat)).Nodup := by
    rw [toNat_sendings link peer settings calls bounded]
    exact List.nodup_range'
  exact List.inj_on_of_nodup_map distinct leftSent rightSent same

/-- A number that was given out is missing among the requests taken exactly if the
request that had it was refused. -/
theorem missed_iff_refused {number : Nat} :
    let tape := ({ settings } : Controller).sendings link peer calls
    number ∈ List.range' 1 tape.length →
      (number ∉ ((tape.filter (!·.refused)).map (·.request)).map (·.seq.toNat) ↔
        ∃ sending ∈ tape, sending.refused = true ∧ sending.request.seq.toNat = number) := by
  intro tape counted
  rw [← toNat_sendings link peer settings calls bounded] at counted
  obtain ⟨sending, sent, rfl⟩ := List.mem_map.mp counted
  constructor
  · intro missed
    refine ⟨sending, sent, Bool.of_not_eq_false fun taken => missed ?_, rfl⟩
    have kept : sending ∈ tape.filter (!·.refused) :=
      List.mem_filter.mpr ⟨sent, by rw [taken]; rfl⟩
    exact List.mem_map_of_mem (List.mem_map_of_mem kept)
  · rintro ⟨other, otherSent, refused, sameNumber⟩ seen
    rw [List.map_map] at seen
    obtain ⟨third, kept, seenNumber⟩ := List.mem_map.mp seen
    obtain ⟨thirdSent, taken⟩ := List.mem_filter.mp kept
    have same := eq_of_seq_eq link peer settings calls bounded thirdSent otherSent
      (seenNumber.trans sameNumber.symm)
    rw [same, refused] at taken
    cases taken

end Bounded

end Tape

/-- The requests of a run, whatever becomes of them, are numbered from one without
a gap, one at most for each call.  A call hands one over exactly if a bridge has
been chosen and the call asks for something, and otherwise takes no number.  A far
end that records what it does not refuse therefore sees rising numbers, and
misses just those of the requests it refused. -/
theorem gapless_numbering {σ : Type} (link : Link σ) (peer : σ) (settings : Settings)
    (calls : List Call)
    (bounded : (({ settings } : Controller).sendings link peer calls).length < UInt64.size) :
    let reached := ({ settings } : Controller).calls link peer calls
    let tape := ({ settings } : Controller).sendings link peer calls
    let recorded := (tape.filter (!·.refused)).map (·.request)
    tape.map (·.request.seq.toNat) = List.range' 1 tape.length ∧
      (∀ call, ∃ sent : List Sending, sent.length ≤ 1 ∧
        ({ settings } : Controller).sendings link peer (calls ++ [call]) = tape ++ sent ∧
        (sent ≠ [] ↔ reached.1.bridge.isSome = true ∧
          ∃ intent ∈ reached.1.intent? call, intent.entries reached.1.settings ≠ []) ∧
        (sent = [] →
          (reached.1.call link reached.2 call).1.controller.lastSeq = reached.1.lastSeq)) ∧
      (∀ received, link.Records received → received reached.2 = received peer ++ recorded) ∧
      (recorded.map (·.seq)).Pairwise (· < ·) ∧
      ∀ number ∈ List.range' 1 tape.length,
        number ∉ recorded.map (·.seq.toNat) ↔
          ∃ sending ∈ tape, sending.refused = true ∧ sending.request.seq.toNat = number := by
  intro reached tape recorded
  refine ⟨toNat_sendings link peer settings calls bounded, fun call => ?_,
    fun received records => received_calls link _ peer records calls, ?_,
    fun number counted => missed_iff_refused link peer settings calls bounded counted⟩
  · obtain ⟨sent, noted, request, _⟩ :=
      ({ settings } : Controller).sendings_concat link peer calls call
    have handed : sent.toList ≠ [] ↔ (reached.1.handle call).request?.isSome = true := by
      rw [← request]
      cases sent <;> simp
    refine ⟨sent.toList, by cases sent <;> simp, noted,
      handed.trans (isSome_request?_iff reached.1 call), fun silent => ?_⟩
    obtain ⟨delivery, refusal, settled⟩ := reached.1.call_eq_turn link reached.2 call
    rw [settled]
    cases reached.1.conveys_handle call with
    | withheld idle unsent kept => exact kept delivery refusal
    | sent bridge intent composed next asked chosen composes handedOver taken =>
        exact absurd silent (handed.mpr (by rw [handedOver]; rfl))
  · rw [List.map_map, List.pairwise_map]
    exact (pairwise_sendings link peer settings calls bounded).filter _

open Simulation in
/-- The second request is refused and the third is not answered, and a mute without
video in between sends nothing. -/
theorem gapless_numbering_over_refused_update :
    let reply : Conference :=
      { id := some ⟨"first"⟩, contents := [{ media := .audio, channels := [{ id := some "a" }] }] }
    let script : ScriptedBridge :=
      { replies := [.answer (.conference reply), .disconnected, .silence] }
    let calls : List Call :=
      [.setBridge ⟨"bridge"⟩, .allocate true ⟨"alice"⟩ true [Sample.audioContent 1],
        .updateSources ∅ reply, .mute reply true, .updateSources ∅ reply, .expireConference]
    let tape := ({ settings := {} } : Controller).sendings ScriptedBridge.link script calls
    let recorded := (tape.filter (!·.refused)).map (·.request)
    let reached := ({ settings := {} } : Controller).calls ScriptedBridge.link script calls
    tape.length < UInt64.size ∧ tape.map (·.request.seq.toNat) = List.range' 1 4 ∧
      recorded.map (·.seq) = [1, 3, 4] ∧ (recorded.map (·.seq)).Pairwise (· < ·) ∧
      reached.2.received.map (·.request) = recorded ∧
      ∃ sending ∈ tape, sending.refused = true ∧ sending.request.seq.toNat = 2 := by
  intro reply script calls tape recorded reached
  have length : tape.length = 4 := by decide
  have bounded : tape.length < UInt64.size := by rw [length]; decide
  obtain ⟨numbered, _, received, rising, missed⟩ :=
    gapless_numbering ScriptedBridge.link script {} calls bounded
  have kept := (received _ ScriptedBridge.link_records).trans (List.nil_append recorded)
  rw [length] at numbered missed
  refine ⟨bounded, numbered, by decide, rising, kept, ?_⟩
  exact (missed 2 (by decide)).mp (by decide)

end Controller

end ConferenceFocus.Control
