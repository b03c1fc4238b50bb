import Mathlib.Data.List.Nodup
import ConferenceFocus.Proofs.ConferenceIdentity
import ConferenceFocus.Proofs.ConferenceShape
import ConferenceFocus.Proofs.SendingConditions

/-!
# Retention of what has been granted

A descriptor handed out by an allocation is the part of the reply that was asked
for.  From then on every channel and connection of it is found in the confirmed
conference by medium and identifier, until the conference is expired; and the
expiry names each entry of the conference once.
-/

namespace ConferenceFocus.Colibri

section Finding

namespace Content

/-- Whether an entry of the same kind and identifier is found in a content. -/
def finds (content : Content) : Entry → Bool
  | .channel _ body => body.id.any fun id => (content.channel? id).isSome
  | .connection _ body => body.id.any fun id => (content.connection? id).isSome
  | .bundle _ | .bundleName _ => false

theorem finds_bare (media : MediaType) (entry : Entry) :
    ({ media } : Content).finds entry = false := by
  cases entry <;> simp [finds, channel?, connection?, Keyed.find?]

theorem finds_absorb (content reply : Content) (entry : Entry) :
    (content.absorb reply).finds entry = (content.finds entry || reply.finds entry) := by
  cases entry with
  | channel media body =>
      cases named : body.id <;>
        simp [finds, named, channel?, absorb, Keyed.isSome_find?, Keyed.holds_appendAll]
  | connection media body =>
      cases named : body.id <;>
        simp [finds, named, connection?, absorb, Keyed.isSome_find?, Keyed.holds_appendAll]
  | bundle | bundleName => rfl

/-- What is listed in a content without unnamed entries is found there. -/
theorem finds_of_mem {content : Content} (complete : content.hasUnnamed = false) {entry : Entry}
    (within : entry ∈ content.entries) : content.finds entry = true := by
  obtain ⟨channelsNamed, connectionsNamed⟩ := named_of_hasUnnamed complete
  rcases mem_entries.mp within with ⟨channel, present, rfl⟩ | ⟨connection, present, rfl⟩
  · obtain ⟨id, named⟩ := Option.ne_none_iff_exists'.mp (channelsNamed channel present)
    simp only [finds, named, Option.any_some, channel?, Keyed.isSome_find?]
    exact Keyed.holds_iff.mpr ⟨channel, present, named⟩
  · obtain ⟨id, named⟩ := Option.ne_none_iff_exists'.mp (connectionsNamed connection present)
    simp only [finds, named, Option.any_some, connection?, Keyed.isSome_find?]
    exact Keyed.holds_iff.mpr ⟨connection, present, named⟩

end Content

/-- A look-up by medium sees what a change adds to the content of that medium. -/
theorem any_find?_modifyContent {media other : MediaType} {change : Content → Content}
    {view : Content → Bool} {added : Bool}
    (keeps : ∀ content, (change content).media = content.media) (bare : view { media } = false)
    (adds : ∀ content, view (change content) = (view content || added))
    (contents : List Content) :
    ((modifyContent media change contents).find? (·.media = other)).any view =
      ((contents.find? (·.media = other)).any view || (decide (other = media) && added)) := by
  induction contents with
  | nil =>
      by_cases asked : other = media
      · simp [modifyContent, keeps, asked, adds, bare]
      · simp [modifyContent, keeps, asked, Ne.symm asked]
  | cons content rest ih =>
      unfold modifyContent
      split
      · next same =>
          by_cases asked : other = media
          · simp [keeps, same, asked, adds]
          · simp [keeps, same, asked, Ne.symm asked]
      · next different =>
          by_cases asked : content.media = other
          · simp [asked, asked ▸ different]
          · simp [asked, ih]

theorem any_find?_absorb (media : MediaType) (entry : Entry) (replies contents : List Content) :
    ((replies.foldl
        (fun contents content => modifyContent content.media (·.absorb content) contents)
        contents).find? (·.media = media)).any (·.finds entry) =
      ((contents.find? (·.media = media)).any (·.finds entry) ||
        replies.any fun content => decide (media = content.media) && content.finds entry) := by
  induction replies generalizing contents with
  | nil => simp
  | cons first rest ih =>
      have grown : ((modifyContent first.media (·.absorb first) contents).find?
          (·.media = media)).any (·.finds entry) =
            ((contents.find? (·.media = media)).any (·.finds entry) ||
              (decide (media = first.media) && first.finds entry)) := by
        refine any_find?_modifyContent ?_ (Content.finds_bare first.media entry) ?_ contents
        · exact fun _ => rfl
        · exact fun content => content.finds_absorb first entry
      rw [List.foldl_cons, ih, grown, List.any_cons, Bool.or_assoc]

namespace Conference

/-- Whether a look-up by medium and then by identifier finds an entry of that kind. -/
def finds (conference : Conference) (entry : Entry) : Bool :=
  entry.media?.any fun media => (conference.content? media).any (·.finds entry)

theorem finds_absorb (state reply : Conference) (id : ConferenceId) {entry : Entry}
    {media : MediaType} (asked : entry.media? = some media) :
    (state.absorb reply id).finds entry =
      (state.finds entry ||
        reply.contents.any fun content =>
          decide (media = content.media) && content.finds entry) := by
  simp only [finds, asked, Option.any_some]
  exact any_find?_absorb media entry reply.contents state.contents

/-- What is found stays found when a reply is merged. -/
theorem finds_merge_of_finds {state reply merged : Conference}
    (merges : state.merge reply = .ok merged) {entry : Entry}
    (found : state.finds entry = true) : merged.finds entry = true := by
  obtain ⟨id, _, rfl⟩ := absorb_of_merge merges
  cases asked : entry.media? with
  | none =>
      rw [finds, asked] at found
      cases found
  | some media => rw [finds_absorb state reply id asked, found, Bool.true_or]

/-- What is listed in a reply is found once the reply is merged. -/
theorem finds_merge_of_mem {state reply merged : Conference}
    (merges : state.merge reply = .ok merged) {content : Content}
    (present : content ∈ reply.contents) {entry : Entry} (within : entry ∈ content.entries) :
    merged.finds entry = true := by
  have complete := complete_of_merge merges content present
  obtain ⟨id, _, rfl⟩ := absorb_of_merge merges
  rw [finds_absorb state reply id (Content.media?_of_mem within), Bool.or_eq_true,
    List.any_eq_true]
  exact .inr ⟨content, present, by simp [Content.finds_of_mem complete within]⟩

end Conference

end Finding

section Expiring

/-- What a request says of an entry that is to expire. -/
def Entry.expired : Entry → Entry
  | .channel media body => .channel media { id := body.id, expire := some 0 }
  | .connection media body => .connection media { id := body.id, expire := some 0 }
  | .bundle body => .bundle body
  | .bundleName id => .bundleName id

theorem filterMap_id_map {α β : Type} {id : α → Option String} (entry : Option String → β)
    {listed : List α} (named : ∀ item ∈ listed, id item ≠ none) :
    (listed.filterMap id).map (fun name => entry (some name)) =
      listed.map fun item => entry (id item) := by
  induction listed with
  | nil => rfl
  | cons first rest ih =>
      obtain ⟨firstNamed, restNamed⟩ := List.forall_mem_cons.mp named
      obtain ⟨name, sameName⟩ := Option.ne_none_iff_exists'.mp firstNamed
      rw [List.filterMap_cons_some sameName, List.map_cons, List.map_cons, ih restNamed, sameName]

namespace Content.WellFormed

variable {content : Content}

theorem expiry_eq (wellFormed : content.WellFormed) :
    Intent.expiry content = content.entries.map Entry.expired := by
  rw [Intent.expiry, entries, List.map_append, List.map_map, List.map_map]
  exact congrArg₂ _
    (filterMap_id_map (fun id => Entry.channel content.media { id, expire := some 0 })
      wellFormed.channels_named)
    (filterMap_id_map (fun id => Entry.connection content.media { id, expire := some 0 })
      wellFormed.connections_named)

theorem nodup_expired (wellFormed : content.WellFormed) :
    (content.entries.map Entry.expired).Nodup := by
  have channels : (content.channels.map fun channel =>
      Entry.channel content.media { id := channel.id, expire := some 0 }).Nodup := by
    have distinct := wellFormed.channels_distinct.map
      (f := fun id => Entry.channel content.media { id, expire := some 0 })
      fun left right same => by simpa using same
    rwa [List.map_map] at distinct
  have connections : (content.connections.map fun connection =>
      Entry.connection content.media { id := connection.id, expire := some 0 }).Nodup := by
    have distinct := wellFormed.connections_distinct.map
      (f := fun id => Entry.connection content.media { id, expire := some 0 })
      fun left right same => by simpa using same
    rwa [List.map_map] at distinct
  rw [entries, List.map_append, List.map_map, List.map_map]
  refine channels.append connections fun entry channel connection => ?_
  obtain ⟨_, _, rfl⟩ := List.mem_map.mp channel
  obtain ⟨_, _, impossible⟩ := List.mem_map.mp connection
  cases impossible

end Content.WellFormed

theorem media?_expired (entry : Entry) : entry.expired.media? = entry.media? := by
  cases entry <;> rfl

theorem role_expired (entry : Entry) : entry.expired.role = entry.role := by
  cases entry <;> rfl

/-- Each entry is another one, also when all but its medium, kind and identifier is
left out. -/
theorem Arranged.nodup_expired {contents : List Content} (arranged : Arranged contents) :
    ((entriesOf contents).map Entry.expired).Nodup := by
  rw [entriesOf, List.map_flatMap, List.nodup_flatMap]
  refine ⟨fun content present => (arranged.wellFormed content present).nodup_expired, ?_⟩
  have apart := List.pairwise_map.mp arranged.media
  refine apart.imp fun {left right} different entry leftListed rightListed => different ?_
  obtain ⟨first, leftWithin, rfl⟩ := List.mem_map.mp leftListed
  obtain ⟨second, rightWithin, same⟩ := List.mem_map.mp rightListed
  have sameMedia := congrArg Entry.media? same
  rw [media?_expired, media?_expired, Content.media?_of_mem leftWithin,
    Content.media?_of_mem rightWithin, Option.some_inj] at sameMedia
  exact sameMedia.symm

theorem Arranged.entries_expire {conference : Conference}
    (arranged : Arranged conference.contents) (settings : Settings) :
    (Intent.expire conference).entries settings = conference.entries.map Entry.expired := by
  rw [Intent.entries, Conference.entries, entriesOf, List.map_flatMap]
  exact List.flatMap_congr fun content present => (arranged.wellFormed content present).expiry_eq

end Expiring

end ConferenceFocus.Colibri

namespace ConferenceFocus.Control

open Colibri

namespace Controller

variable {controller : Controller} {request : Request}

/-- The expiry of a conference names each entry of it once, and nothing else. -/
theorem expires_each_once (wellFormed : controller.state.WellFormed)
    (sent : (controller.handle .expireConference).request? = some request) :
    request.conference.entries.Perm (controller.state.entries.map Entry.expired) ∧
      request.conference.entries.Nodup ∧ request.conference.bundles = [] := by
  obtain ⟨_, impossible, _⟩ | ⟨_, _, bridge, next, chosen, composed⟩ := composes_of_request? sent
  · cases impossible
  have asked := wellFormed.contents.entries_expire controller.settings
  have proper : ∀ entry ∈ controller.state.entries.map Entry.expired, entry.role ≠ .bundle := by
    intro entry listed
    obtain ⟨held, present, rfl⟩ := List.mem_map.mp listed
    obtain ⟨content, _, within⟩ := mem_entriesOf.mp present
    rw [role_expired]
    rcases Content.mem_entries.mp within with ⟨_, _, rfl⟩ | ⟨_, _, rfl⟩ <;> nofun
  have listed : request.conference.entries.Perm (controller.state.entries.map Entry.expired) := by
    rw [eq_of_compose composed, asked]
    refine (perm_entries_foldl_place _ _).trans (.of_eq ?_)
    rw [List.filter_eq_self.mpr fun entry listed => decide_eq_true (proper entry listed)]
    rfl
  refine ⟨listed, listed.nodup_iff.mpr wellFormed.contents.nodup_expired, ?_⟩
  rw [eq_of_compose composed, asked]
  exact Conference.bundles_foldl_place proper _

/-- The expiry of a conference is sent unless there is nothing in it to expire. -/
theorem expiry_unsent_iff (wellFormed : controller.state.WellFormed)
    (held : controller.state.id.isSome = true) (chosen : controller.bridge.isSome = true) :
    (controller.handle .expireConference).request? = none ↔ controller.state.entries = [] := by
  obtain ⟨id, held⟩ := Option.isSome_iff_exists.mp held
  have wanted : controller.intent? .expireConference = some (.expire controller.state) := by
    rw [intent?, held]
    rfl
  rw [← Option.not_isSome_iff_eq_none, isSome_request?_iff, wanted]
  simp [chosen, wellFormed.contents.entries_expire]

/-- A descriptor is handed out only of a reply that is merged, and is what was
requested of it. -/
theorem taken_of_allocated {moment : Moment} {channels : Conference}
    (granted : (controller.turn moment).answer = .allocated channels) :
    ∃ useBundle endpoint initiator contents reply,
      moment.call = .allocate useBundle endpoint initiator contents ∧
        moment.delivery = .answered (.conference reply) ∧
        controller.state.merge reply = .ok (controller.turn moment).controller.state ∧
        channels = reply.restrictTo contents := by
  have ungranted (nothing : (controller.turn moment).answer.granted? = none) : False := by
    rw [granted] at nothing
    cases nothing
  cases controller.outcome moment.call moment.delivery moment.refusal with
  | stays _ _ _ nothing => exact (ungranted nothing).elim
  | forgets _ _ _ nothing => exact (ungranted nothing).elim
  | takes useBundle endpoint initiator contents reply merged allocation delivered merges state
      chosen answer =>
      refine ⟨useBundle, endpoint, initiator, contents, reply, allocation, delivered, ?_, ?_⟩
      · rw [turn, state]
        exact merges
      · exact Answer.allocated.inj (granted.symm.trans answer)

/-- What is found in the conference is found until the conference is expired. -/
theorem finds_after (controller : Controller) (moments : List Moment)
    (lasting : ∀ event ∈ controller.events moments, event.expires = false) {entry : Entry}
    (found : controller.state.finds entry = true) :
    (controller.after moments).state.finds entry = true :=
  state_after_of_lasting (fun found merges => Conference.finds_merge_of_finds merges found)
    (fun _ found => found) controller moments lasting found

/-- After any run: an allocation hands out exactly the contents of the reply of
which the medium was requested, and everything in them is found in the
conference, by medium and identifier, as long as it is not expired; and the
expiry of a conference is one request, which names every channel and connection
held exactly once and nothing else, unless there is none. -/
theorem granted_until_expiry (settings : Settings) (moments : List Moment) :
    let controller := after { settings } moments
    (∀ (moment : Moment) (channels : Conference),
      (controller.turn moment).answer = .allocated channels →
        (∃ useBundle endpoint initiator contents reply,
          moment.call = .allocate useBundle endpoint initiator contents ∧
          moment.delivery = .answered (.conference reply) ∧
          channels.contents = reply.contents.filter fun content =>
            ∃ requested ∈ contents, requested.media = content.media) ∧
        ∀ more : List Moment,
          (∀ event ∈ (controller.turn moment).controller.events more, event.expires = false) →
            ∀ entry ∈ channels.entries,
              ((controller.turn moment).controller.after more).state.finds entry = true) ∧
      (controller.state.id.isSome = true →
        ((controller.handle .expireConference).request? = none ↔
          controller.state.entries = []) ∧
        ∀ request, (controller.handle .expireConference).request? = some request →
          request.conference.entries.Perm (controller.state.entries.map Entry.expired) ∧
            request.conference.entries.Nodup ∧ request.conference.bundles = []) := by
  intro controller
  have wellFormed : controller.state.WellFormed := wellFormed_after settings moments
  refine ⟨fun moment channels granted => ?_, fun held => ⟨?_, fun request sent => ?_⟩⟩
  · obtain ⟨useBundle, endpoint, initiator, contents, reply, allocation, delivered, merges, rfl⟩ :=
      taken_of_allocated granted
    refine ⟨⟨useBundle, endpoint, initiator, contents, reply, allocation, delivered, ?_⟩,
      fun more lasting entry listed => finds_after _ more lasting ?_⟩
    · refine List.filter_congr fun content _ => ?_
      rw [Bool.eq_iff_iff, List.any_eq_true, decide_eq_true_eq]
      simp only [decide_eq_true_eq]
    · obtain ⟨content, kept, within⟩ := mem_entriesOf.mp listed
      exact Conference.finds_merge_of_mem merges (List.mem_filter.mp kept).1 within
  · exact expiry_unsent_iff wellFormed held (hosted_after settings moments held)
  · exact expires_each_once wellFormed sent

open Simulation in
/-- The reply has a medium twice, an identifier twice, and a medium that was not
requested; one of the identifiers comes again in a later reply. -/
theorem granted_until_expiry_of_repeated_entries :
    let audio (ids : List String) : Content :=
      { media := .audio, channels := ids.map fun id => { id := some id } }
    let video : Content :=
      { media := .video, channels := [{ id := some "a" }], connections := [{ id := some "s" }] }
    let reply (contents : List Content) : Conference := { id := some ⟨"first"⟩, contents }
    let allocation (contents : List Content) : Moment :=
      { call := .allocate true ⟨"alice"⟩ true [Sample.audioContent 1],
        delivery := .answered (.conference (reply contents)) }
    let chosen : Moment := { call := .setBridge ⟨"bridge"⟩ }
    let first := allocation [audio ["a"], video, audio ["a", "b"]]
    let second := allocation [audio ["b", "c"]]
    let channels := reply [audio ["a"], audio ["a", "b"]]
    let last := after {} [chosen, first, second]
    ((after {} [chosen]).turn first).answer = .allocated channels ∧
      (∀ entry ∈ channels.entries, last.state.finds entry = true) ∧
      last.state.entries.length = 5 ∧ last.state.id.isSome = true ∧
      ∃ request, (last.handle .expireConference).request? = some request ∧
        request.conference.entries.Perm (last.state.entries.map Entry.expired) ∧
        request.conference.entries.Nodup := by
  intro audio video reply allocation chosen first second channels last
  have granted : ((after {} [chosen]).turn first).answer = .allocated channels := by decide
  have held : last.state.id.isSome = true := by decide
  obtain ⟨request, sent⟩ : ∃ request, (last.handle .expireConference).request? = some request :=
    Option.isSome_iff_exists.mp (by decide)
  obtain ⟨listed, distinct, _⟩ :=
    ((granted_until_expiry {} [chosen, first, second]).2 held).2 request sent
  refine ⟨granted, ?_, by decide, held, request, sent, listed, distinct⟩
  exact ((granted_until_expiry {} [chosen]).1 first channels granted).2 [second] (by decide)

end Controller

end ConferenceFocus.Control
