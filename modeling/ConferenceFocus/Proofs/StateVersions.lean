import ConferenceFocus.Proofs.CallOutcomes
import ConferenceFocus.Proofs.ConfirmedState

/-!
# Versions of the confirmed conference

Whoever keeps a copy of the conference that a controller holds can tell by the version
whether the copy is still good.  The version counts the calls that write to the
conference, and a call that does not write leaves both as they are.
-/

namespace ConferenceFocus.Control

open Colibri

namespace Event

/-- Whether a moment writes to the conference: it names it, an allocation of it succeeds,
or it is expired. -/
def writes (event : Event) : Bool :=
  match event.moment.call with
  | .setName _ => true
  | .allocate .. => event.turn.answer.granted?.isSome
  | .expireConference => event.before.state.id.isSome
  | _ => false

theorem version_of_writes {event : Event} (writes : event.writes = true) :
    event.turn.controller.version = event.before.version + 1 := by
  obtain ⟨before, ⟨call, delivery, refusal⟩⟩ := event
  cases call with
  | setName name => rfl
  | allocate useBundle endpoint initiator contents =>
      cases before.allocates_settle delivery refusal useBundle endpoint initiator contents with
      | failed cause answer kept =>
          rw [Event.writes, turn, Controller.turn, Controller.handle] at writes
          rw [answer] at writes
          cases writes
      | merged reply merged hosted merges answer changed =>
          rw [turn, Controller.turn, Controller.handle, changed]
          rfl
  | expireConference =>
      obtain ⟨conference, hosted⟩ := Option.isSome_iff_exists.mp writes
      rw [turn, Controller.turn, Controller.handle,
        Controller.settle_expireConference delivery refusal hosted]
      have kept := @Controller.kept_dispatch before delivery refusal .expireConference
        (.expire before.state)
      dsimp only [Controller.forget, Controller.confirm]
      rw [kept]
  | _ => cases writes

theorem kept_of_not_writes {event : Event} (idle : event.writes = false) :
    event.turn.controller.version = event.before.version ∧
      event.turn.controller.state = event.before.state := by
  obtain ⟨before, ⟨call, delivery, refusal⟩⟩ := event
  have unchanged {next : Controller} (kept : Controller.Kept before next) :
      next.version = before.version ∧ next.state = before.state := by
    rw [kept]
    exact ⟨rfl, rfl⟩
  cases call with
  | setName name => cases idle
  | takeJustAllocated => exact ⟨rfl, rfl⟩
  | setBridge address =>
      have settled : (Event.mk before ⟨.setBridge address, delivery, refusal⟩).turn =
          before.setBridge address := rfl
      rw [settled]
      rcases before.setBridge_cases address with same | ⟨conference, -, tied⟩ | ⟨-, chosen⟩
      · rw [same]
        exact ⟨rfl, rfl⟩
      · rw [tied]
        exact ⟨rfl, rfl⟩
      · rw [chosen]
        exact ⟨rfl, rfl⟩
  | allocate useBundle endpoint initiator contents =>
      cases before.allocates_settle delivery refusal useBundle endpoint initiator contents with
      | failed cause answer kept => exact unchanged kept
      | merged reply merged hosted merges answer changed =>
          rw [Event.writes, turn, Controller.turn, Controller.handle] at idle
          rw [answer] at idle
          cases idle
  | expireConference =>
      have absent : before.state.id = none := by
        simpa [Event.writes] using idle
      exact unchanged (before.kept_of_spares ⟨_, delivery, refusal⟩ absent)
  | _ => exact unchanged (before.kept_of_spares ⟨_, delivery, refusal⟩ trivial)

end Event

namespace Controller

/-- How often a run writes to the conference. -/
def writesOf (controller : Controller) (moments : List Moment) : Nat :=
  (controller.events moments).countP (·.writes)

theorem events_append (controller : Controller) (left right : List Moment) :
    controller.events (left ++ right) =
      controller.events left ++ (controller.after left).events right := by
  induction left generalizing controller with
  | nil => rfl
  | cons first rest ih => simp only [List.cons_append, events, ih, after, List.foldl_cons]

theorem after_append (controller : Controller) (left right : List Moment) :
    controller.after (left ++ right) = (controller.after left).after right := by
  rw [after, after, after, List.foldl_append]

theorem writesOf_append (controller : Controller) (left right : List Moment) :
    controller.writesOf (left ++ right) =
      controller.writesOf left + (controller.after left).writesOf right := by
  rw [writesOf, events_append, List.countP_append, writesOf, writesOf]

theorem writesOf_concat (controller : Controller) (moments : List Moment) (moment : Moment) :
    controller.writesOf (moments ++ [moment]) = controller.writesOf moments +
      if (Event.mk (controller.after moments) moment).writes then 1 else 0 := by
  rw [writesOf, events_concat, List.countP_append, List.countP_singleton, writesOf]

theorem version_after_writesOf (settings : Settings) (moments : List Moment) :
    (after { settings } moments).version = UInt64.ofNat (writesOf { settings } moments) := by
  induction moments using List.reverseRecOn with
  | nil => rfl
  | append_singleton moments moment ih =>
      let last : Event := { before := after { settings } moments, moment }
      rw [after_concat, writesOf_concat, UInt64.ofNat_add, ← ih]
      change last.turn.controller.version =
        last.before.version + UInt64.ofNat (if last.writes then 1 else 0)
      cases writes : last.writes with
      | true =>
          rw [Event.version_of_writes writes]
          rfl
      | false =>
          rw [(Event.kept_of_not_writes writes).1]
          exact (UInt64.add_zero _).symm

theorem state_after_of_writesOf {controller : Controller} {moments : List Moment}
    (idle : controller.writesOf moments = 0) :
    (controller.after moments).state = controller.state := by
  induction moments generalizing controller with
  | nil => rfl
  | cons first rest ih =>
      rw [writesOf, events, List.countP_cons, Nat.add_eq_zero_iff] at idle
      obtain ⟨later, now⟩ := idle
      have spared : (Event.mk controller first).writes = false := by simpa using now
      exact (ih later).trans (Event.kept_of_not_writes spared).2

section Bounded

variable {settings : Settings} {moments : List Moment}
  (bounded : writesOf { settings } moments < UInt64.size)

include bounded

theorem toNat_version_after {reached : List Moment} (part : reached <+: moments) :
    (after { settings } reached).version.toNat = writesOf { settings } reached := by
  obtain ⟨more, rfl⟩ := part
  rw [writesOf_append] at bounded
  rw [version_after_writesOf]
  exact UInt64.toNat_ofNat_of_lt' (by omega)

theorem state_eq_of_version_eq {earlier later : List Moment} (order : earlier <+: later)
    (part : later <+: moments)
    (same : (after { settings } earlier).version = (after { settings } later).version) :
    (after { settings } earlier).state = (after { settings } later).state := by
  have sameCount := congrArg UInt64.toNat same
  rw [toNat_version_after bounded (order.trans part), toNat_version_after bounded part]
    at sameCount
  obtain ⟨more, rfl⟩ := order
  rw [writesOf_append] at sameCount
  have idle : (after { settings } earlier).writesOf more = 0 := by omega
  rw [after_append, state_after_of_writesOf idle]

end Bounded

/-- In a run that writes to the conference fewer than 2⁶⁴ times, the version never goes
down, and at two moments with the same version the conference held is the same.  Each
moment that writes raises the version by one, and no other changes it. -/
theorem version_identifies_state (settings : Settings) (moments : List Moment)
    (bounded : writesOf { settings } moments < UInt64.size) :
    (∀ earlier later, earlier <+: later → later <+: moments →
      (after { settings } earlier).version ≤ (after { settings } later).version) ∧
      (∀ left right, left <+: moments → right <+: moments →
        (after { settings } left).version = (after { settings } right).version →
          (after { settings } left).state = (after { settings } right).state) ∧
      ∀ event ∈ events { settings } moments,
        event.turn.controller.version.toNat =
          event.before.version.toNat + if event.writes then 1 else 0 := by
  refine ⟨fun earlier later order part => ?_, fun left right leftPart rightPart same => ?_,
    fun event met => ?_⟩
  · rw [UInt64.le_iff_toNat_le, toNat_version_after bounded (order.trans part),
      toNat_version_after bounded part]
    obtain ⟨more, rfl⟩ := order
    rw [writesOf_append]
    exact Nat.le_add_right _ _
  · rcases List.prefix_or_prefix_of_prefix leftPart rightPart with order | order
    · exact state_eq_of_version_eq bounded order rightPart same
    · exact (state_eq_of_version_eq bounded order leftPart same.symm).symm
  · obtain ⟨earlier, part, before⟩ := exists_of_mem_events met
    have turned : event.turn.controller = after { settings } (earlier ++ [event.moment]) := by
      rw [after_concat, ← before]
      rfl
    have counted : event.before.version.toNat = writesOf { settings } earlier := by
      rw [before, toNat_version_after bounded ((List.prefix_append _ _).trans part)]
    rw [turned, toNat_version_after bounded part, writesOf_concat, ← before, counted]

open Simulation in
/-- An allocation is answered by another conference, and a second expiry finds none. -/
theorem version_identifies_state_over_second_expiry :
    let reply (id : String) : Delivery := .answered (.conference
      { id := some ⟨id⟩, contents := [{ media := .audio, channels := [{ id := some "a" }] }] })
    let allocation : Call := .allocate true ⟨"alice"⟩ true [Sample.audioContent 1]
    let before : List Moment :=
      [{ call := .setBridge ⟨"bridge"⟩ }, { call := .setName "room" },
        { call := allocation, delivery := reply "first" }]
    let refused : Moment := { call := allocation, delivery := reply "second" }
    let moments : List Moment :=
      before ++ [refused, { call := .expireConference }, { call := .expireConference }]
    writesOf {} moments < UInt64.size ∧
      (after {} moments).version = 3 ∧
      (after {} before).version ≤ (after {} moments).version ∧
      (after {} (before ++ [refused])).version = (after {} before).version ∧
      (after {} (before ++ [refused])).state = (after {} before).state := by
  intro reply allocation before refused moments
  have writes : writesOf {} moments = 3 := by decide
  have bounded : writesOf {} moments < UInt64.size := by
    rw [writes]
    decide
  have part : before <+: moments := List.prefix_append before _
  have refusedPart : before ++ [refused] <+: moments :=
    (List.prefix_append_right_inj before).mpr ⟨_, rfl⟩
  obtain ⟨rising, identifies, _⟩ := version_identifies_state {} moments bounded
  have same : (after {} (before ++ [refused])).version = (after {} before).version := by decide
  exact ⟨bounded, by decide, rising before moments part List.prefix_rfl, same,
    identifies _ _ refusedPart part same⟩

end Controller

end ConferenceFocus.Control
