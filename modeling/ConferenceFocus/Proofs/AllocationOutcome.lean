import ConferenceFocus.Proofs.BridgeGrants
import ConferenceFocus.Proofs.EntrySlots
import ConferenceFocus.Proofs.GrantRetention
import ConferenceFocus.Simulation.Sample

/-!
# What an allocation provides

An allocation goes through many hands: its contents become a request, the bridge
names and opens what the request asks for, and the controller checks, absorbs and
restricts the reply.  Each of them orders entries in its own way, and in each slot
they agree: one new entry for each content, in the order of the contents.
-/

namespace ConferenceFocus

open Colibri Control Simulation

namespace Colibri

/-- The slot in which what a content asks for stands. -/
def contentSlot (content : MediaContent) : Slot :=
  if content.media.isRtp then .channels content.media else .connections content.media

/-- How an entry serves a content: as a channel, which has the content's sources and
groups, or for data as a connection. -/
inductive Serves (useBundle : Bool) (endpoint : EndpointId) (initiator : Bool)
    (content : MediaContent) : Entry → Prop where
  | channel {media : MediaType} {body : Channel} (sameMedia : content.media = media)
      (rtp : media.isRtp = true) (named : body.id.isSome = true)
      (sameEndpoint : body.endpoint = some endpoint)
      (sameInitiator : body.initiator = some initiator)
      (bundle : body.bundle = if useBundle then some endpoint.text else none)
      (sources : body.sources = content.sources) (groups : body.groups = content.groups) :
      Serves useBundle endpoint initiator content (.channel media body)
  | connection {media : MediaType} {body : SctpConnection} (sameMedia : content.media = media)
      (data : media.isRtp = false) (named : body.id.isSome = true)
      (sameEndpoint : body.endpoint = some endpoint)
      (sameInitiator : body.initiator = some initiator)
      (bundle : body.bundle = if useBundle then some endpoint.text else none) :
      Serves useBundle endpoint initiator content (.connection media body)

section Serving

variable {settings : Settings} {useBundle : Bool} {endpoint : EndpointId} {initiator : Bool}
  {contents : List MediaContent}

theorem slot?_allocation (settings : Settings) (bundle : Option String) (endpoint : EndpointId)
    (initiator : Bool) (content : MediaContent) :
    (Intent.allocation settings bundle endpoint initiator content).slot? =
      some (contentSlot content) := by
  unfold Intent.allocation contentSlot
  cases content.media <;> rfl

theorem inSlot_allocate (slot : Slot) :
    inSlot slot ((Intent.allocate useBundle endpoint initiator contents).entries settings) =
      (contents.filter (contentSlot · = slot)).map (Intent.allocation settings
        (if useBundle then some endpoint.text else none) endpoint initiator) := by
  have bundles (bundle : Option String) : inSlot slot (if contents.isEmpty then []
      else (bundle.map Entry.bundleName).toList) = [] := by
    apply inSlot_eq_nil
    intro entry listed
    split at listed
    · cases listed
    · obtain ⟨name, _, rfl⟩ := Option.map_eq_some_iff.mp (Option.mem_toList.mp listed)
      exact (Option.some_ne_none slot).symm
  simp only [Intent.entries, inSlot_append, bundles, List.append_nil]
  simp only [inSlot, List.filter_map, Function.comp_def, slot?_allocation, Option.some_inj]

/-- Whatever name the bridge gives to what a content asks for, it serves the content. -/
theorem serves_nameEntry (settings : Settings) (useBundle : Bool) (endpoint : EndpointId)
    (initiator : Bool) (content : MediaContent) (name : String) :
    Serves useBundle endpoint initiator content
      (nameEntry name (Intent.allocation settings
        (if useBundle then some endpoint.text else none) endpoint initiator content)) := by
  unfold Intent.allocation
  cases asked : content.media with
  | data => exact .connection asked rfl rfl rfl rfl rfl
  | audio | video => exact .channel asked rfl rfl rfl rfl rfl rfl rfl

/-- A request for new channels lists the bundle once, if there is to be one. -/
theorem bundles_allocate {conference : Conference} (unbundled : conference.bundles = [])
    (filled : contents ≠ []) :
    (((Intent.allocate useBundle endpoint initiator contents).entries settings).foldl
      Conference.place conference).bundles =
        if useBundle then [{ id := endpoint.text }] else [] := by
  have proper (bundle : Option String) :
      ∀ entry ∈ contents.map (Intent.allocation settings bundle endpoint initiator),
        entry.role ≠ .bundle := by
    intro entry listed isBundle
    obtain ⟨content, _, rfl⟩ := List.mem_map.mp listed
    have stands := slot?_allocation settings bundle endpoint initiator content
    generalize Intent.allocation settings bundle endpoint initiator content = asked
      at isBundle stands
    cases asked with
    | channel | connection => cases isBundle
    | bundle | bundleName => cases stands
  have placed (bundle : Option String) :
      ((contents.map (Intent.allocation settings bundle endpoint initiator)).foldl
        Conference.place conference).bundles = [] :=
    (Conference.bundles_foldl_place (proper bundle) conference).trans unbundled
  have asked : contents.isEmpty = false := by simpa using filled
  simp only [Intent.entries, asked, Bool.false_eq_true, if_false, List.foldl_append]
  cases useBundle with
  | false => exact placed none
  | true =>
      simp only [if_true, Option.map_some, Option.toList_some, List.foldl_cons, List.foldl_nil,
        Conference.place, placed]
      rfl

end Serving

end Colibri

namespace Simulation

variable {supply : Nat → String} {bridge : SimulatedBridge}

theorem HostedConference.knows_of_mem_relays {hosted : HostedConference} {relay : Relay}
    (alive : relay ∈ hosted.relays) : hosted.knows relay.name = true := by
  apply Bool.or_eq_true_iff.mpr
  rcases List.mem_append.mp alive with channel | connection
  · obtain ⟨body, present, rfl⟩ := List.mem_map.mp channel
    exact .inl (Keyed.holds_iff.mpr ⟨body, present, rfl⟩)
  · obtain ⟨body, present, rfl⟩ := List.mem_map.mp connection
    exact .inr (Keyed.holds_iff.mpr ⟨body, present, rfl⟩)

theorem SimulatedBridge.Sound.minted_relay (sound : bridge.Sound supply)
    {located : ConferenceId × Relay} (alive : located ∈ bridge.relays) :
    Minted supply bridge.minted located.2.name := by
  obtain ⟨hosted, present, within⟩ := List.mem_flatMap.mp alive
  obtain ⟨relay, relayed, rfl⟩ := List.mem_map.mp within
  exact sound.minted hosted present relay.name (HostedConference.knows_of_mem_relays relayed)

section Answering

variable {request : Request}

/-- A request for something new is answered by a conference, unless it is about one
that is not there. -/
theorem SimulatedBridge.Processed.answered {result : Reply × SimulatedBridge}
    (processed : bridge.Processed supply request result)
    (unnamed : ∀ entry ∈ request.conference.entries, entry.name? = none)
    (hosted : ∀ id ∈ request.conference.id, ∃ hosted ∈ bridge.conferences, hosted.id = id) :
    ∃ reply, result.1 = .conference reply := by
  cases processed with
  | carried => exact ⟨_, rfl⟩
  | refused condition missing =>
      exfalso
      rcases missing with absent | ⟨entry, asked, named, _⟩
      · cases about : request.conference.id with
        | some id =>
            obtain ⟨conference, present, sameId⟩ := hosted id about
            rw [bridge.arrival_of_id supply about] at absent
            exact absent conference present sameId
        | none =>
            obtain ⟨opened, present, sameId⟩ := Keyed.exists_mem_append bridge.conferences
              ({ id := ⟨supply bridge.minted⟩ } : HostedConference)
            simp only [arrival, locate, about] at absent
            exact absent opened present sameId
      · exact named (unnamed entry asked)

variable {reply : Conference} {after : SimulatedBridge}

theorem SimulatedBridge.Processed.naming
    (processed : bridge.Processed supply request (.conference reply, after)) :
    ∃ used, (nameEntries supply used request.conference.entries).1 = reply.entries := by
  cases processed with
  | carried hosted contents minted present sameId known naming =>
      exact ⟨_, congrArg Prod.fst naming⟩

theorem SimulatedBridge.Processed.bundles
    (processed : bridge.Processed supply request (.conference reply, after)) :
    reply.bundles = request.conference.bundles := by
  cases processed
  rfl

theorem media_nameContents (supply : Nat → String) (used : Nat) (contents : List Content) :
    (nameContents supply used contents).1.map (·.media) = contents.map (·.media) := by
  induction contents generalizing used with
  | nil => rfl
  | cons content rest ih => exact congrArg (content.media :: ·) (ih _)

/-- A reply has the contents of the request. -/
theorem SimulatedBridge.media_of_process
    (answered : bridge.process supply request = (.conference reply, after)) :
    reply.contents.map (·.media) = request.conference.contents.map (·.media) := by
  simp only [process, notFound] at answered
  split at answered
  · cases answered
  · split at answered
    · cases answered
    · cases answered
      exact media_nameContents supply _ request.conference.contents

end Answering

end Simulation

namespace Connected

variable {supply : Nat → String} {run : Connected}

/-- What an allocation rests on: names in the conference held were minted by the
bridge, and the conference has one content at most for each medium. -/
structure Recorded (supply : Nat → String) (run : Connected) : Prop where
  orderly : Orderly supply run
  distinctIds : run.bridge.DistinctIds
  arranged : Arranged run.controller.state.contents
  listed : ∀ name role, run.controller.state.Lists name role →
    Minted supply run.bridge.minted name

theorem recorded_start (settings : Settings) :
    Recorded supply { controller := { settings } } where
  orderly := orderly_start settings
  distinctIds := List.nodup_nil
  arranged := ⟨List.nodup_nil, by simp⟩
  listed := by simp [Conference.Lists]

theorem Recorded.keep (recorded : Recorded supply run) {after : Connected}
    (orderly : Orderly supply after) (distinctIds : after.bridge.DistinctIds)
    (grown : run.bridge.minted ≤ after.bridge.minted)
    (sameContents : after.controller.state.contents = run.controller.state.contents) :
    Recorded supply after where
  orderly := orderly
  distinctIds := distinctIds
  arranged := sameContents ▸ recorded.arranged
  listed := by
    intro name role listed
    rw [Conference.Lists, sameContents] at listed
    exact (recorded.listed name role listed).mono grown

theorem Recorded.forget {after : Connected} (orderly : Orderly supply after)
    (distinctIds : after.bridge.DistinctIds) (forgotten : after.controller.state = {}) :
    Recorded supply after where
  orderly := orderly
  distinctIds := distinctIds
  arranged := by
    rw [forgotten]
    exact ⟨List.nodup_nil, by simp⟩
  listed := by simp [forgotten, Conference.Lists]

theorem recorded_step (distinct : Function.Injective supply) (recorded : Recorded supply run)
    (call : Call) : Recorded supply (run.step supply call) := by
  have orderly := orderly_step distinct recorded.orderly call
  have distinctIds := distinctIds_step supply recorded.orderly.online recorded.distinctIds call
  have grown := recorded.orderly.minted_le_step distinct call
  have turns := run.turns supply recorded.orderly.online call
  unfold step at orderly distinctIds grown ⊢
  generalize run.answer supply call = answer at orderly ⊢
  generalize run.turn supply call = result at turns orderly distinctIds grown ⊢
  cases turns with
  | unsent unsent settled outcome =>
      cases outcome with
      | stays sameId sameContents _ _ _ =>
          exact recorded.keep orderly distinctIds grown sameContents
      | forgets _ _ forgotten _ => exact .forget orderly distinctIds forgotten
      | takes _ _ _ _ _ _ _ delivered => cases delivered
  | sent sent settled outcome processed =>
      cases outcome with
      | stays sameId sameContents _ _ _ =>
          exact recorded.keep orderly distinctIds grown sameContents
      | forgets _ _ forgotten _ => exact .forget orderly distinctIds forgotten
      | takes _ _ _ contents reply merged allocation delivered merges state =>
          subst allocation
          cases delivered
          have composed := Controller.composed_of_intent? rfl sent
          have anew := processed.anew distinct composed.asksAnew.unnamed
          obtain ⟨id, _, absorbed⟩ := Conference.absorb_of_merge merges
          have taken := state.trans absorbed
          refine ⟨orderly, distinctIds, ?_, ?_⟩
          · rw [taken]
            exact recorded.arranged.absorb (Conference.complete_of_merge merges)
          · intro name role listed
            rw [taken, Conference.lists_absorb] at listed
            rcases listed with held | replied
            · exact (recorded.listed name role held).mono grown
            · obtain ⟨index, _, below, same⟩ := anew.fresh name role replied
              exact ⟨index, below, same⟩

theorem Recorded.of_reachable (distinct : Function.Injective supply)
    {permitted : Connected → Call → Prop} {origin : Connected} (recorded : Recorded supply origin)
    (reachable : Reachable supply permitted origin run) : Recorded supply run := by
  induction reachable with
  | start => exact recorded
  | step reachable call allowed ih => exact recorded_step distinct ih call

/-- A name that was never minted is not in use anywhere. -/
theorem Recorded.unused (recorded : Recorded supply run) {name : String}
    (new : ¬ Minted supply run.bridge.minted name) :
    (∀ located ∈ run.bridge.relays, located.2.name ≠ name) ∧
      name ∉ run.controller.state.names ∧ ∀ earlier ∈ run.granted, name ∉ earlier.names := by
  refine ⟨fun located alive same => ?_, fun held => ?_, fun earlier before listed => ?_⟩
  · exact new (same ▸ recorded.orderly.sound.minted_relay alive)
  · obtain ⟨role, listed⟩ := Conference.mem_names.mp held
    exact new (recorded.listed name role listed)
  · obtain ⟨role, listed⟩ := Conference.mem_names.mp listed
    exact new (recorded.orderly.names earlier before name role listed)

section Allocation

variable {useBundle : Bool} {endpoint : EndpointId} {initiator : Bool}
  {contents : List MediaContent} {request : Request}

theorem exists_request (chosen : run.controller.bridge.isSome = true) (filled : contents ≠ []) :
    ∃ request, (run.controller.handle
      (.allocate useBundle endpoint initiator contents)).request? = some request := by
  apply Option.isSome_iff_exists.mp
  refine (Controller.isSome_request?_iff _ _).mpr ⟨chosen, _, rfl, ?_⟩
  simp [Intent.entries, filled]

/-- The request of an allocation is the draft for it, begun with nothing. -/
theorem drafted_of_sent (sent : (run.controller.handle
      (.allocate useBundle endpoint initiator contents)).request? = some request) :
    ∃ bare : Conference, bare.contents = [] ∧ bare.bundles = [] ∧ request.conference =
      ((Intent.allocate useBundle endpoint initiator contents).entries
        run.controller.settings).foldl Conference.place bare := by
  obtain ⟨intent, wanted, bridge, next, _, composed⟩ | ⟨impossible, _⟩ :=
    Controller.composes_of_request? sent
  · obtain rfl := Option.some.inj wanted
    rw [Controller.eq_of_compose composed]
    exact ⟨_, rfl, rfl, rfl⟩
  · cases impossible

/-- An allocation succeeds whenever a bridge is chosen, something is asked for and
the bridge has the conference held, if one is. -/
theorem exists_grant (distinct : Function.Injective supply) (online : run.bridge.offline = false)
    (chosen : run.controller.bridge.isSome = true)
    (hosted : ∀ id ∈ run.controller.state.id, ∃ hosted ∈ run.bridge.conferences, hosted.id = id)
    (filled : contents ≠ []) (useBundle : Bool) (endpoint : EndpointId) (initiator : Bool) :
    let call : Call := .allocate useBundle endpoint initiator contents
    ∃ request reply,
      (run.controller.handle call).request? = some request ∧
      run.bridge.process supply request = (.conference reply, (run.step supply call).bridge) ∧
      run.answer supply call = .allocated (reply.restrictTo contents) ∧
      run.controller.state.merge reply = .ok (run.step supply call).controller.state := by
  intro call
  obtain ⟨request, sent⟩ : ∃ request, (run.controller.handle call).request? = some request :=
    exists_request chosen filled
  have composed := Controller.composed_of_intent? rfl sent
  have processed := run.bridge.processed supply request
  have turned : run.turn supply call = _ := turn_of_sent online sent
  obtain ⟨reply, answered⟩ := processed.answered composed.asksAnew.unnamed (composed.id ▸ hosted)
  have replied : run.bridge.process supply request =
      (.conference reply, (run.bridge.process supply request).2) := Prod.ext answered rfl
  rw [replied] at processed turned
  obtain ⟨merged, merges⟩ := merge_of_processed distinct composed processed
  have answer := Controller.answer_allocate_of_merge none sent merges
  unfold step Connected.answer
  rw [turned]
  refine ⟨request, reply, sent, replied, answer, ?_⟩
  cases run.controller.outcome call (.answered (.conference reply)) none with
  | stays _ _ _ nothing | forgets _ _ _ nothing => cases nothing.symm.trans (congrArg _ answer)
  | takes _ _ _ _ other merged _ delivered merges state =>
      cases delivered
      exact state ▸ merges

end Allocation

/-- What an allocation provides. -/
structure Provides (useBundle : Bool) (endpoint : EndpointId) (initiator : Bool)
    (contents : List MediaContent) (before after : Connected) (channels : Conference)
    (conference : ConferenceId) : Prop where
  /-- One entry for each content, slot by slot in the order of the contents. -/
  served : ∀ slot, List.Forall₂ (Serves useBundle endpoint initiator)
    (contents.filter (contentSlot · = slot)) (channels.entriesAt slot)
  media : (channels.contents.map (·.media)).Nodup
  distinct : channels.names.Nodup
  /-- No name is in use, or was granted before. -/
  fresh : ∀ name ∈ channels.names,
    (∀ located ∈ before.bridge.relays, located.2.name ≠ name) ∧
      name ∉ before.controller.state.names ∧ ∀ earlier ∈ before.granted, name ∉ earlier.names
  bundles : channels.bundles = if useBundle then [{ id := endpoint.text }] else []
  id : channels.id = some conference
  held : after.controller.state.id = some conference ∧
    ∀ id ∈ before.controller.state.id, id = conference
  snapshotMedia : (after.controller.state.contents.map (·.media)).Nodup
  /-- In the snapshot all that is new stands at the end of its content. -/
  snapshot : ∀ slot, after.controller.state.entriesAt slot =
    before.controller.state.entriesAt slot ++ channels.entriesAt slot
  /-- The bridge relays what it did, and one thing more for each entry. -/
  relays : after.bridge.relays.Perm (before.bridge.relays ++
    (channels.entries.filterMap Relay.ofEntry?).map (conference, ·))

/-- What serves a content has the sources of a content, and no marker for none. -/
theorem plain_of_serves {useBundle : Bool} {endpoint : EndpointId} {initiator : Bool}
    {content : MediaContent} {entry : Entry}
    (serves : Serves useBundle endpoint initiator content entry)
    (plain : ∀ source ∈ content.sources.head?, source.isRemoveAll = false) : Plain entry := by
  cases serves with
  | channel _ _ _ _ _ _ sources _ => exact fun source first => plain source (sources ▸ first)
  | connection => trivial

theorem exists_of_forall₂_of_mem {α β : Type} {relates : α → β → Prop} {left : List α}
    {right : List β} (related : List.Forall₂ relates left right) {item : β}
    (member : item ∈ right) : ∃ other ∈ left, relates other item := by
  induction related with
  | nil => cases member
  | cons here _ ih =>
      rcases List.mem_cons.mp member with rfl | later
      · exact ⟨_, List.mem_cons_self, here⟩
      · obtain ⟨other, listed, relates⟩ := ih later
        exact ⟨other, List.mem_cons_of_mem _ listed, relates⟩

section Provision

variable {useBundle : Bool} {endpoint : EndpointId} {initiator : Bool}
  {contents : List MediaContent} {request : Request} {reply : Conference}
  {bridge : SimulatedBridge}

/-- In each slot the reply serves the contents one by one. -/
theorem served_of_processed
    (sent : (run.controller.handle
      (.allocate useBundle endpoint initiator contents)).request? = some request)
    (processed : run.bridge.Processed supply request (.conference reply, bridge)) (slot : Slot) :
    List.Forall₂ (Serves useBundle endpoint initiator)
      (contents.filter (contentSlot · = slot)) (reply.entriesAt slot) := by
  obtain ⟨used, named⟩ := processed.naming
  have asked : request.conference.entriesAt slot =
      (contents.filter (contentSlot · = slot)).map (Intent.allocation run.controller.settings
        (if useBundle then some endpoint.text else none) endpoint initiator) := by
    obtain ⟨bare, vacant, _, drafted⟩ := drafted_of_sent sent
    rw [drafted, Conference.entriesAt_foldl_place slot (by simp [vacant]), inSlot_allocate,
      Conference.entriesAt, Conference.entries, vacant]
    rfl
  have placed := forall₂_inSlot_nameEntries supply slot used request.conference.entries
  rw [named] at placed
  rw [Conference.entriesAt] at asked ⊢
  rw [asked, List.forall₂_map_left_iff] at placed
  apply placed.imp
  rintro content entry ⟨name, rfl⟩
  exact serves_nameEntry run.controller.settings useBundle endpoint initiator content name

/-- Every entry of the reply serves some content. -/
theorem serves_of_processed
    (sent : (run.controller.handle
      (.allocate useBundle endpoint initiator contents)).request? = some request)
    (processed : run.bridge.Processed supply request (.conference reply, bridge)) {entry : Entry}
    (replied : entry ∈ reply.entries) :
    ∃ content ∈ contents, Serves useBundle endpoint initiator content entry := by
  obtain ⟨slot, stands⟩ := exists_slot_of_mem replied
  obtain ⟨content, asked, serves⟩ := exists_of_forall₂_of_mem
    (served_of_processed sent processed slot) (mem_inSlot.mpr ⟨replied, stands⟩)
  exact ⟨content, (List.mem_filter.mp asked).1, serves⟩

/-- Nothing that a reply lists goes by a name minted before. -/
theorem not_minted_of_processed (distinct : Function.Injective supply)
    (composed : run.controller.Composed (.allocate useBundle endpoint initiator contents) request)
    (processed : run.bridge.Processed supply request (.conference reply, bridge)) {name : String}
    (named : name ∈ reply.names) : ¬ Minted supply run.bridge.minted name := by
  obtain ⟨role, listed⟩ := Conference.mem_names.mp named
  have anew := processed.anew distinct composed.asksAnew.unnamed
  obtain ⟨index, above, _, rfl⟩ := anew.fresh name role listed
  exact not_minted_of_le distinct above

theorem nodup_names_of_processed (distinct : Function.Injective supply)
    (composed : run.controller.Composed (.allocate useBundle endpoint initiator contents) request)
    (processed : run.bridge.Processed supply request (.conference reply, bridge)) :
    (reply.entries.map Entry.name?).Nodup := by
  obtain ⟨used, named⟩ := processed.naming
  rw [← named]
  exact nodup_nameEntries distinct used composed.asksAnew.unnamed

/-- What is granted has one content at most for each medium. -/
theorem nodup_media_of_process
    (sent : (run.controller.handle
      (.allocate useBundle endpoint initiator contents)).request? = some request)
    (answered : run.bridge.process supply request = (.conference reply, bridge)) :
    (reply.contents.map (·.media)).Nodup := by
  obtain ⟨bare, vacant, _, drafted⟩ := drafted_of_sent sent
  rw [SimulatedBridge.media_of_process answered, drafted]
  apply Conference.nodup_media_foldl_place
  simp [vacant]

/-- The snapshot takes the reply in as it is. -/
theorem Recorded.entriesAt_absorb (distinct : Function.Injective supply)
    (recorded : Recorded supply run)
    (composed : run.controller.Composed (.allocate useBundle endpoint initiator contents) request)
    (processed : run.bridge.Processed supply request (.conference reply, bridge))
    {conference : ConferenceId} (slot : Slot) :
    (run.controller.state.absorb reply conference).entriesAt slot =
      run.controller.state.entriesAt slot ++ reply.entriesAt slot := by
  have anew := processed.anew distinct composed.asksAnew.unnamed
  apply Conference.entriesAt_absorb slot recorded.arranged.media
    (nodup_names_of_processed distinct composed processed)
  intro entry replied held listed same
  obtain ⟨name, named⟩ := Option.ne_none_iff_exists'.mp (anew.complete entry replied)
  have new := not_minted_of_processed distinct composed processed
    (List.mem_filterMap.mpr ⟨entry, replied, named⟩)
  apply (recorded.unused new).2.1
  exact List.mem_filterMap.mpr ⟨held, listed, same.trans named⟩

theorem Recorded.perm_relays (distinct : Function.Injective supply)
    (recorded : Recorded supply run)
    (sent : (run.controller.handle
      (.allocate useBundle endpoint initiator contents)).request? = some request)
    (processed : run.bridge.Processed supply request (.conference reply, bridge))
    (plain : ∀ content ∈ contents, ∀ source ∈ content.sources.head?, source.isRemoveAll = false)
    {conference : ConferenceId} (called : reply.id = some conference) :
    bridge.relays.Perm (run.bridge.relays ++
      (reply.entries.filterMap Relay.ofEntry?).map (conference, ·)) := by
  have asksAnew := (Controller.composed_of_intent? rfl sent).asksAnew
  have anew := processed.anew distinct asksAnew.unnamed
  rw [← Option.some.inj (anew.id.symm.trans called)]
  apply processed.perm_relays distinct recorded.orderly.sound recorded.distinctIds
    asksAnew.unnamed asksAnew.lasts
  intro entry replied
  obtain ⟨content, asked, serves⟩ := serves_of_processed sent processed replied
  exact plain_of_serves serves (plain content asked)

end Provision

/-- An allocation succeeds whenever a bridge is chosen and has the conference held,
if one is, and each content asked for has sources of its own.  It provides one new
channel or connection for each content, adds them to the snapshot and to the bridge,
and leaves all else there as it was. -/
theorem allocation_provides (distinct : Function.Injective supply) {settings : Settings}
    {permitted : Connected → Call → Prop}
    (reachable : Reachable supply permitted { controller := { settings } } run)
    (chosen : run.controller.bridge.isSome = true)
    (hosted : ∀ id ∈ run.controller.state.id, ∃ hosted ∈ run.bridge.conferences, hosted.id = id)
    (useBundle : Bool) (endpoint : EndpointId) (initiator : Bool) {contents : List MediaContent}
    (filled : contents ≠ [])
    (plain : ∀ content ∈ contents, ∀ source ∈ content.sources.head?, source.isRemoveAll = false) :
    let call : Call := .allocate useBundle endpoint initiator contents
    ∃ channels conference, run.answer supply call = .allocated channels ∧
      Provides useBundle endpoint initiator contents run (run.step supply call) channels
        conference := by
  intro call
  have recorded := (recorded_start settings).of_reachable distinct reachable
  have after := recorded_step distinct recorded call
  obtain ⟨request, reply, sent, answered, answer, merges⟩ :=
    exists_grant distinct recorded.orderly.online chosen hosted filled useBundle endpoint initiator
  have composed := Controller.composed_of_intent? rfl sent
  have processed := answered ▸ run.bridge.processed supply request
  have granted := entries_restrictTo_of_processed distinct composed processed
  have sameNames : (reply.restrictTo contents).names = reply.names :=
    congrArg (List.filterMap Entry.name?) granted
  obtain ⟨conference, called, expected, absorbed⟩ := Conference.called_of_merge merges
  refine ⟨reply.restrictTo contents, conference, answer, ?_⟩
  exact
    { served := fun slot => by
        rw [Conference.entriesAt, granted]
        exact served_of_processed sent processed slot
      media := (List.filter_sublist.map _).nodup (nodup_media_of_process sent answered)
      distinct := by
        rw [sameNames]
        exact Conference.nodup_names (nodup_names_of_processed distinct composed processed)
      fresh := fun name named => by
        rw [sameNames] at named
        exact recorded.unused (not_minted_of_processed distinct composed processed named)
      bundles := by
        obtain ⟨bare, _, unbundled, drafted⟩ := drafted_of_sent sent
        refine processed.bundles.trans ?_
        rw [drafted]
        exact bundles_allocate unbundled filled
      id := called
      held := ⟨congrArg Conference.id absorbed, expected⟩
      snapshotMedia := after.arranged.media
      snapshot := fun slot => by
        rw [absorbed, recorded.entriesAt_absorb distinct composed processed, Conference.entriesAt,
          Conference.entriesAt, Conference.entriesAt, granted]
      relays := by
        rw [granted]
        exact recorded.perm_relays distinct sent processed plain called }

/-- An endpoint asks a second time, for two contents of one medium with data between
them, after a channel of its first allocation has been expired. -/
theorem allocation_provides_of_repeated_endpoint :
    let first : Call := .allocate true ⟨"alice"⟩ true (Sample.audioVideo 1 2)
    let joined := [Call.setBridge SimulatedBridge.address, first].foldl (step tally)
      { controller := {} }
    let audio := (joined.granted.headD {}).restrictTo [Sample.audioContent 1]
    let run := joined.step tally (.expireChannels audio)
    let contents := [Sample.audioContent 3, Sample.dataContent, Sample.audioContent 4]
    let second : Call := .allocate true ⟨"alice"⟩ false contents
    run.controller.bridge.isSome = true ∧ run.bridge.relays.length = 1 ∧
      (∀ id ∈ run.controller.state.id, ∃ hosted ∈ run.bridge.conferences, hosted.id = id) ∧
      ∃ channels conference, run.answer tally second = .allocated channels ∧
        Provides true ⟨"alice"⟩ false contents run (run.step tally second) channels
          conference := by
  intro first joined audio run contents second
  have founded : Reachable tally (fun _ _ => True) { controller := {} } { controller := {} } :=
    .start
  have reachable : Reachable tally (fun _ _ => True) { controller := {} } run :=
    ((founded.step (.setBridge SimulatedBridge.address) trivial).step first trivial).step
      (.expireChannels audio) trivial
  have chosen : run.controller.bridge.isSome = true := by decide
  have hosted : ∀ id ∈ run.controller.state.id, ∃ hosted ∈ run.bridge.conferences,
      hosted.id = id := by decide
  exact ⟨chosen, by decide, hosted, allocation_provides tally_injective reachable chosen hosted
    true ⟨"alice"⟩ false (List.cons_ne_nil _ _) (by decide)⟩

end Connected

end ConferenceFocus
