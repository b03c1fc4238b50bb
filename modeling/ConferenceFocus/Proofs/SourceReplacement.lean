import ConferenceFocus.Proofs.BridgeAccount
import ConferenceFocus.Simulation.Sample

/-!
# What a source update leaves on the bridge

An update carries the sources and groups that a channel is to have, with a
marker in place of either when there is none.  The marker for sources clears
them all; the marker for groups only clears simulcast groups, so that groups of
another kind outlive an update that is to leave none.
-/

namespace ConferenceFocus

open Colibri Control Simulation

namespace Simulation

theorem updatedSources_replacement (current sources : List Source)
    (plain : ∀ source ∈ sources, source.isRemoveAll = false) :
    updatedSources current (if sources.isEmpty then [.removeAll] else sources) = sources := by
  cases sources with
  | nil => rfl
  | cons first rest => simp [updatedSources, plain first List.mem_cons_self]

/-- A channel told of a replacement has exactly the groups of it, unless there are
none and it had others than simulcast groups. -/
theorem updatedGroups_replacement (current groups : List SourceGroup)
    (proper : ∀ group ∈ groups, group.isEmpty = false) :
    updatedGroups current (if groups.isEmpty then [.emptySimulcast] else groups) = groups ↔
      groups ≠ [] ∨ ∀ group ∈ current, group.semantics = .simulcast := by
  cases groups with
  | nil =>
      have cleared : updatedGroups current [.emptySimulcast] =
          current.filter fun group => decide (GroupSemantics.simulcast ≠ group.semantics) := by
        simp [updatedGroups, SourceGroup.emptySimulcast, SourceGroup.isEmpty]
      simp only [List.isEmpty_nil, if_true, cleared, List.filter_eq_nil_iff, decide_eq_true_eq,
        not_not, ne_eq, not_true_eq_false, false_or]
      exact ⟨fun all group member => (all group member).symm,
        fun all group member => (all group member).symm⟩
  | cons first rest =>
      have kept : (first :: rest).filter (!·.isEmpty) = first :: rest :=
        List.filter_eq_self.mpr fun group member => by rw [proper group member]; rfl
      simp [updatedGroups, kept]

theorem HostedConference.hosts_of_find? {hosted : HostedConference} {name : String}
    {channel : HostedChannel} (found : Keyed.find? hosted.channels name = some channel) :
    hosted.Hosts name (.channel channel.media) := by
  unfold Keyed.find? at found
  have sameName := List.find?_some found
  exact ⟨channel, List.mem_of_find?_eq_some found, of_decide_eq_true sameName, rfl⟩

theorem HostedConference.knows_of_find? {hosted : HostedConference} {name : String}
    {channel : HostedChannel} (found : Keyed.find? hosted.channels name = some channel) :
    hosted.knows name = true :=
  knows_iff.mpr ⟨_, hosts_of_find? found⟩

namespace SimulatedBridge

variable {supply : Nat → String} {bridge : SimulatedBridge} {request : Request} {name : String}

theorem channel?_of_knows (sound : bridge.Sound supply) {hosted : HostedConference}
    (present : hosted ∈ bridge.conferences) (known : hosted.knows name = true) :
    bridge.channel? name = (Keyed.find? hosted.channels name).map (hosted.id, ·) := by
  cases located : bridge.channel? name with
  | none =>
      have missing := List.findSome?_eq_none_iff.mp located hosted present
      rw [missing]
  | some result =>
      obtain ⟨other, otherPresent, found⟩ := List.exists_of_findSome?_eq_some located
      obtain ⟨channel, otherFound, rfl⟩ := Option.map_eq_some_iff.mp found
      have same := sound.apart other otherPresent hosted present name
        (HostedConference.knows_of_find? otherFound) known
      rw [← same, otherFound]
      rfl

theorem Processed.channel?_update (distinct : Function.Injective supply)
    (sound : bridge.Sound supply) {reply : Conference} {after : SimulatedBridge}
    (processed : Processed supply request bridge (.conference reply, after))
    (named : ∀ entry ∈ request.conference.entries, entry.name? ≠ none) {media : MediaType}
    {channel : Channel} (asked : .channel media channel ∈ request.conference.entries)
    (sameName : channel.id = some name) (lasts : channel.expire ≠ some 0)
    (alike : ∀ entry ∈ request.conference.entries, entry.name? = some name →
      entry = .channel media channel) :
    ∃ conference, after.channel? name = some (conference,
      (((bridge.channel? name).map Prod.snd).getD
        ({ id := name, media, endpoint := channel.endpoint } : HostedChannel)).update
          channel) := by
  obtain ⟨afterSound, _⟩ := sound_processed distinct sound processed
  cases processed with
  | carried hosted contents minted present sameId known naming =>
      have known := known _ asked name sameName lasts
      obtain ⟨role, alive⟩ := HostedConference.knows_iff.mp known
      have before := channel?_of_knows sound (mem_of_hosts_arrival present alive) known
      -- The entries carried out are those of the request, for all of them had names.
      rw [nameEntries_of_named _ named] at naming
      have found := hosted.find?_foldl_applyEntry sameName lasts alike
      rw [if_pos asked, (Prod.mk.inj naming).1, ← HostedConference.apply_eq_foldl] at found
      have stillKnown : (hosted.apply contents).knows name = true :=
        HostedConference.knows_of_find? found
      have filled : (hosted.apply contents).isEmpty = false := by
        refine Bool.eq_false_iff.mpr fun empty => ?_
        obtain ⟨role, alive⟩ := HostedConference.knows_iff.mp stillKnown
        exact HostedConference.isEmpty_iff.mp empty name role alive
      have stored := mem_store_self { (bridge.arrival supply request).2 with minted } filled
        present (HostedConference.id_apply hosted contents).symm
      refine ⟨hosted.id, ?_⟩
      rw [channel?_of_knows afterSound stored stillKnown, found, before,
        HostedConference.id_apply, Option.map_map]
      cases Keyed.find? hosted.channels name <;> rfl

end SimulatedBridge

end Simulation

namespace Control.Controller

variable {controller : Controller} {streams : Streams} {channels : Conference}
  {delivery : Delivery} {refusal : Option Failure}

theorem entries_of_done
    (done : ((controller.updateSources streams channels).settle delivery refusal).answer = .done)
    (unsent : (controller.updateSources streams channels).request? = none) :
    (Intent.replaceStreams streams channels).entries controller.settings = [] := by
  unfold updateSources at done unsent
  cases chosen : controller.bridge with
  | none =>
      rw [chosen] at done
      cases done
  | some bridge =>
      rw [chosen] at unsent
      dsimp only at unsent
      split at unsent
      · next withheld => exact entries_of_compose_eq_none withheld
      · cases unsent

theorem not_done_of_error {request : Request} {condition : ErrorCondition}
    (sent : (controller.updateSources streams channels).request? = some request) :
    ((controller.updateSources streams channels).settle (.answered (.error condition))
      refusal).answer ≠ .done := by
  unfold updateSources at sent ⊢
  cases chosen : controller.bridge with
  | none =>
      rw [chosen] at sent
      cases sent
  | some bridge =>
      rw [chosen] at sent
      dsimp only at sent ⊢
      rcases composed : controller.compose bridge (.replaceStreams streams channels) with
        ⟨_ | request, next⟩
      · rw [composed] at sent
        cases sent
      · exact Answer.noConfusion

end Control.Controller

def Simulation.SimulatedBridge.groupsOf (bridge : SimulatedBridge) (name : String) :
    List SourceGroup :=
  ((bridge.channel? name).map fun located => located.2.groups).getD []

namespace Connected

variable {supply : Nat → String} {run : Connected}

theorem Orderly.media_eq (orderly : Orderly supply run) {channels : Conference}
    (granted : channels ∈ run.granted) {left right : Content}
    (leftListed : left ∈ channels.contents) (rightListed : right ∈ channels.contents)
    {name : String} (leftNamed : name ∈ left.channelIds) (rightNamed : name ∈ right.channelIds) :
    left.media = right.media :=
  Role.channel.inj (orderly.roles channels granted channels granted name _ _
    ⟨left, leftListed, Content.lists_channel leftNamed⟩
    ⟨right, rightListed, Content.lists_channel rightNamed⟩)

/-- An update that succeeds has reached every channel of the descriptor. -/
theorem Orderly.channel?_updateSources (distinct : Function.Injective supply)
    (orderly : Orderly supply run) {channels : Conference} (granted : channels ∈ run.granted)
    {streams : Streams}
    (done : run.answer supply (.updateSources streams channels) = .done) {content : Content}
    (listed : content ∈ channels.contents) {name : String} (named : name ∈ content.channelIds) :
    ∃ conference,
      (run.step supply (.updateSources streams channels)).bridge.channel? name =
        some (conference, (((run.bridge.channel? name).map Prod.snd).getD
          ({ id := name, media := content.media } : HostedChannel)).update
            (Intent.replacement (streams.sources.entriesFor content.media)
              (streams.groups.entriesFor content.media) name)) := by
  have entry_mem : Entry.channel content.media
      (Intent.replacement (streams.sources.entriesFor content.media)
        (streams.groups.entriesFor content.media) name) ∈
      (Intent.replaceStreams streams channels).entries run.controller.settings :=
    Intent.mem_entries_replaceStreams.mpr ⟨content, listed, name, named, rfl⟩
  have turns := run.turns supply orderly.online (.updateSources streams channels)
  unfold answer at done
  unfold step
  generalize run.turn supply (.updateSources streams channels) = result at turns done ⊢
  cases turns with
  | unsent unsent settled outcome =>
      rw [Controller.entries_of_done (settled ▸ done) unsent] at entry_mem
      cases entry_mem
  | @sent turn request reply bridge sent settled outcome processed =>
      have composed := Controller.composed_of_intent? rfl sent
      have asked {entry : Entry} (within : entry ∈ request.conference.entries) :=
        Intent.mem_entries_replaceStreams.mp ((composed.mem_entries entry).mp within).1
      cases reply with
      | error condition => exact absurd (settled ▸ done) (Controller.not_done_of_error sent)
      | unexpected kind => cases processed
      | conference reply =>
          refine processed.channel?_update distinct orderly.sound (fun entry within => ?_)
            ((composed.mem_entries _).mpr ⟨entry_mem, Role.noConfusion⟩) rfl
            (Option.some_ne_none 0).symm fun entry within sameName => ?_
          · obtain ⟨_, _, _, _, rfl⟩ := asked within
            exact Option.some_ne_none _
          · obtain ⟨other, otherListed, otherName, otherNamed, rfl⟩ := asked within
            obtain rfl := Option.some.inj sameName
            rw [orderly.media_eq granted otherListed listed otherNamed named]

theorem Accounted.media_of_channel? (accounted : Accounted supply run) {channels : Conference}
    (granted : channels ∈ run.granted) {content : Content} (listed : content ∈ channels.contents)
    {name : String} (named : name ∈ content.channelIds) {located : ConferenceId × HostedChannel}
    (found : run.bridge.channel? name = some located) : located.2.media = content.media := by
  obtain ⟨hosted, present, within⟩ := List.exists_of_findSome?_eq_some found
  obtain ⟨channel, hostedFound, rfl⟩ := Option.map_eq_some_iff.mp within
  obtain ⟨grant, grantGranted, grantLists⟩ := accounted.granted hosted present name _
    (HostedConference.hosts_of_find? hostedFound)
  exact Role.channel.inj (accounted.orderly.roles grant grantGranted channels granted name _ _
    grantLists ⟨content, listed, Content.lists_channel named⟩)

/-- A source update that succeeds leaves every channel of the descriptor with
exactly the sources that were sent.  It has exactly the groups as well unless
none were sent and some it had before were not for simulcast: those it keeps.
The channel is of the medium under which the descriptor lists it, as long as no
descriptors but granted ones have been passed in. -/
theorem replaced_streams (distinct : Function.Injective supply) {settings : Settings}
    {permitted : Connected → Call → Prop}
    (reachable : Reachable supply permitted { controller := { settings } } run)
    {channels : Conference} (granted : channels ∈ run.granted) {streams : Streams}
    (plain : ∀ media, streams.sources.contains media .removeAll = false)
    (proper : ∀ media, ∀ group ∈ streams.groups.entriesFor media, group.isEmpty = false)
    (done : run.answer supply (.updateSources streams channels) = .done) {content : Content}
    (listed : content ∈ channels.contents) {name : String} (named : name ∈ content.channelIds) :
    ∃ conference channel,
      (run.step supply (.updateSources streams channels)).bridge.channel? name =
        some (conference, channel) ∧
      channel.sources = streams.sources.entriesFor content.media ∧
      (channel.groups = streams.groups.entriesFor content.media ↔
        streams.groups.entriesFor content.media ≠ [] ∨
          ∀ group ∈ run.bridge.groupsOf name, group.semantics = .simulcast) ∧
      ((∀ run call, permitted run call → OnlyGranted run call) →
        channel.media = content.media) := by
  have orderly := (orderly_start settings).of_reachable distinct reachable
  obtain ⟨conference, found⟩ := orderly.channel?_updateSources distinct granted done listed named
  refine ⟨conference, _, found, ?_, ?_, ?_⟩
  · refine updatedSources_replacement _ _ fun source member => ?_
    refine Bool.eq_false_iff.mpr fun marker => ?_
    have held := MediaSet.contains_iff.mpr ⟨source, member, beq_iff_eq.mp marker⟩
    rw [plain content.media] at held
    cases held
  · have groups : run.bridge.groupsOf name = (((run.bridge.channel? name).map Prod.snd).getD
        ({ id := name, media := content.media } : HostedChannel)).groups := by
      unfold SimulatedBridge.groupsOf
      cases run.bridge.channel? name <;> rfl
    rw [groups]
    exact updatedGroups_replacement _ _ (proper content.media)
  · intro strict
    have accounted := (accounted_start settings).of_reachable distinct (reachable.mono strict)
    cases before : run.bridge.channel? name with
    | none => rfl
    | some located => exact accounted.media_of_channel? granted listed named before

/-- A retransmission group is not cleared by an update without groups. -/
theorem retransmission_group_outlives_update :
    let group : SourceGroup := { semantics := .flowIdentification, ssrcs := [⟨1⟩, ⟨2⟩] }
    let video : MediaContent := { Sample.videoContent 1 with groups := [group] }
    let run := [Call.setBridge SimulatedBridge.address,
        .allocate true ⟨"alice"⟩ true [video]].foldl (step tally) { controller := {} }
    let alice := run.granted.headD {}
    let after := run.step tally (.updateSources ∅ alice)
    Reachable tally OnlyGranted { controller := {} } run ∧ alice ∈ run.granted ∧
      run.answer tally (.updateSources ∅ alice) = .done ∧
      tally 1 ∈ alice.contents.flatMap (·.channelIds) ∧
      (after.bridge.channel? (tally 1)).map (·.2.sources) = some [] ∧
      (after.bridge.channel? (tally 1)).map (·.2.groups) = some [group] := by
  intro group video run alice after
  have founded : Reachable tally OnlyGranted { controller := {} } { controller := {} } := .start
  have chosen := founded.step (.setBridge SimulatedBridge.address) (by decide)
  exact ⟨chosen.step (.allocate true ⟨"alice"⟩ true [video]) (by decide), by decide, by decide,
    by decide, by decide, by decide⟩

/-- The layers of a simulcast are replaced by a retransmission group, in a channel
that has since been muted. -/
theorem replaced_streams_of_muted_simulcast :
    let group : SourceGroup := { semantics := .flowIdentification, ssrcs := [⟨4⟩, ⟨5⟩] }
    let streams : Streams :=
      { sources := Sample.sourceSet .video [4, 5], groups := MediaSet.ofList [(.video, group)] }
    let joined := [Call.setBridge SimulatedBridge.address,
        .allocate true ⟨"alice"⟩ true
          [Sample.audioContent 1, Sample.simulcastVideoContent [2, 3]]].foldl (step tally)
      { controller := {} }
    let alice := joined.granted.headD {}
    let run := joined.step tally (.mute alice true)
    let after := run.step tally (.updateSources streams alice)
    ∃ conference channel, after.bridge.channel? (tally 2) = some (conference, channel) ∧
      channel.media = .video ∧ channel.sources = [Sample.source 4, Sample.source 5] ∧
      channel.groups = [group] := by
  intro group streams joined alice run after
  have founded : Reachable tally OnlyGranted { controller := {} } { controller := {} } := .start
  have chosen := founded.step (.setBridge SimulatedBridge.address) (by decide)
  have allocated := chosen.step (.allocate true ⟨"alice"⟩ true
    [Sample.audioContent 1, Sample.simulcastVideoContent [2, 3]]) (by decide)
  have reachable : Reachable tally OnlyGranted { controller := {} } run :=
    allocated.step (.mute alice true) (by decide)
  have plain : ∀ media, streams.sources.contains media .removeAll = false := by
    intro media
    cases media <;> decide
  have proper : ∀ media, ∀ group ∈ streams.groups.entriesFor media, group.isEmpty = false := by
    intro media
    cases media <;> decide
  have granted : alice ∈ run.granted := by decide
  have listed : (alice.content? .video).getD { media := .video } ∈ alice.contents := by decide
  have named : tally 2 ∈ ((alice.content? .video).getD { media := .video }).channelIds := by decide
  obtain ⟨conference, channel, found, sources, groups, media⟩ :=
    replaced_streams tally_injective reachable granted plain proper (by decide) listed named
  exact ⟨conference, channel, found, media fun _ _ allowed => allowed, sources,
    groups.mpr (.inl (by decide))⟩

end Connected

end ConferenceFocus
