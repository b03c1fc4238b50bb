import ConferenceFocus.Colibri.Allocation
import ConferenceFocus.Colibri.Draft

/-!
# The entries of a conference

A conference is laid out by medium, but what requests, replies and bridges do
to it concerns its entries one by one.  `Conference.entries` reads the contents
as one list of entries, and `Conference.Lists` says under which role a name
stands there.  The lemmas say how drafts, merges and restrictions change that
list.
-/

namespace ConferenceFocus.Colibri

/-- What a name in a conference stands for. -/
inductive Role where
  | channel (media : MediaType)
  | connection
  | bundle
  deriving DecidableEq, Repr

namespace Entry

def role : Entry → Role
  | .channel media _ => .channel media
  | .connection _ _ => .connection
  | .bundle _ | .bundleName _ => .bundle

def media? : Entry → Option MediaType
  | .channel media _ | .connection media _ => some media
  | .bundle _ | .bundleName _ => none

def name? : Entry → Option String
  | .channel _ body => body.id
  | .connection _ body => body.id
  | .bundle body => some body.id
  | .bundleName id => some id

def expire? : Entry → Option Nat
  | .channel _ body => body.expire
  | .connection _ body => body.expire
  | .bundle _ | .bundleName _ => none

end Entry

namespace Content

def entries (content : Content) : List Entry :=
  content.channels.map (.channel content.media) ++
    content.connections.map (.connection content.media)

def Lists (content : Content) (name : String) : Role → Prop
  | .channel media => content.media = media ∧ Keyed.holds content.channels (some name) = true
  | .connection => Keyed.holds content.connections (some name) = true
  | .bundle => False

theorem mem_entries {content : Content} {entry : Entry} :
    entry ∈ content.entries ↔
      (∃ channel ∈ content.channels, entry = .channel content.media channel) ∨
        ∃ connection ∈ content.connections, entry = .connection content.media connection := by
  simp only [entries, List.mem_append, List.mem_map, eq_comm]

theorem media?_of_mem {content : Content} {entry : Entry} (within : entry ∈ content.entries) :
    entry.media? = some content.media := by
  rcases mem_entries.mp within with ⟨_, _, rfl⟩ | ⟨_, _, rfl⟩ <;> rfl

theorem lists_iff {content : Content} {name : String} {role : Role} :
    content.Lists name role ↔
      ∃ entry ∈ content.entries, entry.name? = some name ∧ entry.role = role := by
  constructor
  · intro listed
    cases role with
    | channel media =>
        obtain ⟨rfl, held⟩ := listed
        obtain ⟨channel, within, named⟩ := Keyed.holds_iff.mp held
        exact ⟨_, mem_entries.mpr (.inl ⟨channel, within, rfl⟩), named, rfl⟩
    | connection =>
        obtain ⟨connection, within, named⟩ := Keyed.holds_iff.mp listed
        exact ⟨_, mem_entries.mpr (.inr ⟨connection, within, rfl⟩), named, rfl⟩
    | bundle => exact listed.elim
  · intro membership
    obtain ⟨entry, within, named, rfl⟩ := membership
    rcases mem_entries.mp within with ⟨channel, present, rfl⟩ | ⟨connection, present, rfl⟩
    · exact ⟨rfl, Keyed.holds_iff.mpr ⟨channel, present, named⟩⟩
    · exact Keyed.holds_iff.mpr ⟨connection, present, named⟩

theorem mem_channelIds {content : Content} {name : String} :
    name ∈ content.channelIds ↔ Keyed.holds content.channels (some name) = true := by
  rw [Keyed.holds_iff]
  exact List.mem_filterMap

theorem mem_connectionIds {content : Content} {name : String} :
    name ∈ content.connectionIds ↔ Keyed.holds content.connections (some name) = true := by
  rw [Keyed.holds_iff]
  exact List.mem_filterMap

end Content

def entriesOf (contents : List Content) : List Entry :=
  contents.flatMap Content.entries

@[simp] theorem entriesOf_nil : entriesOf [] = [] := rfl

@[simp] theorem entriesOf_cons (content : Content) (rest : List Content) :
    entriesOf (content :: rest) = content.entries ++ entriesOf rest := rfl

theorem mem_entriesOf {contents : List Content} {entry : Entry} :
    entry ∈ entriesOf contents ↔ ∃ content ∈ contents, entry ∈ content.entries :=
  List.mem_flatMap

namespace Conference

def entries (conference : Conference) : List Entry :=
  entriesOf conference.contents

/-- The identifiers of the channels of a medium, in whichever content they are. -/
def channelIdsFor (conference : Conference) (media : MediaType) : List String :=
  (conference.contents.filter (·.media = media)).flatMap (·.channelIds)

def connectionIdsFor (conference : Conference) (media : MediaType) : List String :=
  (conference.contents.filter (·.media = media)).flatMap (·.connectionIds)

theorem mem_channelIdsFor {conference : Conference} {media : MediaType} {name : String} :
    name ∈ conference.channelIdsFor media ↔ ∃ content ∈ conference.contents,
      content.media = media ∧ Keyed.holds content.channels (some name) = true := by
  simp [channelIdsFor, Content.mem_channelIds, and_assoc]

theorem mem_connectionIdsFor {conference : Conference} {media : MediaType} {name : String} :
    name ∈ conference.connectionIdsFor media ↔ ∃ content ∈ conference.contents,
      content.media = media ∧ Keyed.holds content.connections (some name) = true := by
  simp [connectionIdsFor, Content.mem_connectionIds, and_assoc]

/-- Whether a name stands in a conference under this role. -/
def Lists (conference : Conference) (name : String) (role : Role) : Prop :=
  ∃ content ∈ conference.contents, content.Lists name role

theorem lists_iff {conference : Conference} {name : String} {role : Role} :
    conference.Lists name role ↔
      ∃ entry ∈ conference.entries, entry.name? = some name ∧ entry.role = role := by
  simp only [Lists, Content.lists_iff, entries, mem_entriesOf]
  constructor
  · intro membership
    obtain ⟨content, present, entry, within, named⟩ := membership
    exact ⟨entry, ⟨content, present, within⟩, named⟩
  · intro membership
    obtain ⟨entry, ⟨content, present, within⟩, named⟩ := membership
    exact ⟨content, present, entry, within, named⟩

/-- The names of the channels and connections of a conference. -/
def names (conference : Conference) : List String :=
  conference.entries.filterMap Entry.name?

theorem nodup_names {conference : Conference}
    (distinct : (conference.entries.map Entry.name?).Nodup) : conference.names.Nodup := by
  apply (List.pairwise_map.mp distinct).filterMap Entry.name?
  rintro left right different name named _ otherNamed rfl
  exact different (named.trans otherNamed.symm)

theorem mem_names {conference : Conference} {name : String} :
    name ∈ conference.names ↔ ∃ role, conference.Lists name role := by
  simp only [names, List.mem_filterMap, lists_iff]
  constructor
  · intro listed
    obtain ⟨entry, within, named⟩ := listed
    exact ⟨entry.role, entry, within, named, rfl⟩
  · intro listed
    obtain ⟨role, entry, within, named, _⟩ := listed
    exact ⟨entry, within, named⟩

theorem entries_eq_nil_of_isEmpty {conference : Conference}
    (empty : conference.isEmpty = true) : conference.entries = [] := by
  simp only [isEmpty, Bool.and_eq_true, List.all_eq_true] at empty
  refine List.flatMap_eq_nil_iff.mpr fun content present => ?_
  have bare := empty.1 content present
  simp only [Content.isEmpty, Bool.and_eq_true, List.isEmpty_iff] at bare
  simp [Content.entries, bare.1, bare.2]

end Conference

section Placing

theorem perm_entries_addChannel (content : Content) (channel : Channel) :
    (content.addChannel channel).entries.Perm
      (content.entries ++ [.channel content.media channel]) := by
  simp only [Content.entries, Content.addChannel, List.map_append, List.append_assoc]
  exact List.perm_append_comm.append_left _

theorem entries_addConnection (content : Content) (connection : SctpConnection) :
    (content.addConnection connection).entries =
      content.entries ++ [.connection content.media connection] := by
  simp only [Content.entries, Content.addConnection, List.map_append, List.append_assoc,
    List.map_cons, List.map_nil]

/-- What a change adds to the content of a medium it adds to a list of contents. -/
theorem exists_modifyContent {media : MediaType} {change : Content → Content}
    {has : Content → Prop} (added : Prop) (bare : ¬ has { media })
    (adds : ∀ content, content.media = media → (has (change content) ↔ has content ∨ added))
    (contents : List Content) :
    (∃ content ∈ modifyContent media change contents, has content) ↔
      (∃ content ∈ contents, has content) ∨ added := by
  induction contents with
  | nil => simp [modifyContent, adds { media } rfl, bare]
  | cons content rest ih =>
      unfold modifyContent
      split
      · next same =>
          simp only [List.mem_cons, exists_eq_or_imp, adds content same]
          exact or_right_comm
      · simp only [List.mem_cons, exists_eq_or_imp, ih]
        exact or_assoc.symm

theorem perm_entriesOf_modifyContent {media : MediaType} {change : Content → Content}
    {added : List Entry}
    (adds : ∀ content, content.media = media →
      (change content).entries.Perm (content.entries ++ added))
    (contents : List Content) :
    (entriesOf (modifyContent media change contents)).Perm (entriesOf contents ++ added) := by
  induction contents with
  | nil => simpa [modifyContent, Content.entries] using adds { media } rfl
  | cons content rest ih =>
      unfold modifyContent
      split
      · next same =>
          simp only [entriesOf_cons, List.append_assoc]
          refine ((adds content same).append_right _).trans ?_
          rw [List.append_assoc]
          exact List.perm_append_comm.append_left _
      · simp only [entriesOf_cons, List.append_assoc]
        exact ih.append_left _

/-- What is placed in a conference is added to its entries; bundles are none of them. -/
theorem perm_entries_place (conference : Conference) (placed : Entry) :
    (conference.place placed).entries.Perm
      (conference.entries ++ [placed].filter (·.role ≠ .bundle)) := by
  cases placed with
  | channel media channel =>
      refine perm_entriesOf_modifyContent (fun content same => ?_) conference.contents
      exact same ▸ perm_entries_addChannel content channel
  | connection media connection =>
      refine perm_entriesOf_modifyContent (fun content same => ?_) conference.contents
      exact same ▸ .of_eq (entries_addConnection content connection)
  | bundle bundle => exact .of_eq (List.append_nil _).symm
  | bundleName id => exact .of_eq (List.append_nil _).symm

theorem perm_entries_foldl_place (placed : List Entry) (conference : Conference) :
    (placed.foldl Conference.place conference).entries.Perm
      (conference.entries ++ placed.filter (·.role ≠ .bundle)) := by
  induction placed generalizing conference with
  | nil => simp
  | cons first rest ih =>
      refine (ih (conference.place first)).trans ?_
      refine ((perm_entries_place conference first).append_right _).trans (.of_eq ?_)
      rw [List.append_assoc, ← List.filter_append, List.singleton_append]

theorem mem_entries_place (conference : Conference) (placed entry : Entry) :
    entry ∈ (conference.place placed).entries ↔
      entry ∈ conference.entries ∨ entry = placed ∧ placed.role ≠ .bundle := by
  rw [(perm_entries_place conference placed).mem_iff, List.mem_append, List.mem_filter,
    List.mem_singleton, decide_eq_true_eq]
  exact or_congr_right (and_congr_right fun same => by rw [same])

theorem mem_entries_foldl_place (placed : List Entry) (conference : Conference)
    (entry : Entry) :
    entry ∈ (placed.foldl Conference.place conference).entries ↔
      entry ∈ conference.entries ∨ entry ∈ placed ∧ entry.role ≠ .bundle := by
  rw [(perm_entries_foldl_place placed conference).mem_iff, List.mem_append, List.mem_filter,
    decide_eq_true_eq]

/-- What is placed in a conference does not change what it is called. -/
theorem called_foldl_place (placed : List Entry) (conference : Conference) :
    (placed.foldl Conference.place conference).id = conference.id ∧
      (placed.foldl Conference.place conference).name = conference.name := by
  induction placed generalizing conference with
  | nil => exact ⟨rfl, rfl⟩
  | cons first rest ih =>
      rw [List.foldl_cons, (ih _).1, (ih _).2]
      cases first <;> exact ⟨rfl, rfl⟩

theorem id_foldl_place (placed : List Entry) (conference : Conference) :
    (placed.foldl Conference.place conference).id = conference.id :=
  (called_foldl_place placed conference).1

theorem Conference.bundles_foldl_place {placed : List Entry}
    (proper : ∀ entry ∈ placed, entry.role ≠ .bundle) (conference : Conference) :
    (placed.foldl Conference.place conference).bundles = conference.bundles := by
  induction placed generalizing conference with
  | nil => rfl
  | cons first rest ih =>
      obtain ⟨firstProper, restProper⟩ := List.forall_mem_cons.mp proper
      rw [List.foldl_cons, ih restProper]
      cases first with
      | channel | connection => rfl
      | bundle | bundleName => exact absurd rfl firstProper

end Placing

section Merging

theorem Content.lists_absorb {content reply : Content} (same : content.media = reply.media)
    (name : String) (role : Role) :
    (content.absorb reply).Lists name role ↔ content.Lists name role ∨ reply.Lists name role := by
  cases role with
  | channel media =>
      simp only [Lists, absorb, Keyed.holds_appendAll, Bool.or_eq_true, same]
      exact and_or_left
  | connection => simp only [Lists, absorb, Keyed.holds_appendAll, Bool.or_eq_true]
  | bundle => simp [Lists]

/-- What some content is to have that takes in a reply, one had before or one of the reply has. -/
theorem exists_absorb {has : Content → Prop} (bare : ∀ media, ¬ has { media })
    (absorbs : ∀ content reply : Content, content.media = reply.media →
      (has (content.absorb reply) ↔ has content ∨ has reply)) (replies contents : List Content) :
    (∃ content ∈ replies.foldl
        (fun contents content => modifyContent content.media (·.absorb content) contents)
        contents, has content) ↔
      (∃ content ∈ contents, has content) ∨ ∃ content ∈ replies, has content := by
  induction replies generalizing contents with
  | nil => simp
  | cons reply rest ih =>
      rw [List.foldl_cons, ih, exists_modifyContent (has reply) (bare reply.media)
        fun content same => absorbs content reply same]
      simp only [List.mem_cons, exists_eq_or_imp]
      exact or_assoc

namespace Conference

theorem lists_absorb (state reply : Conference) (id : ConferenceId) (name : String)
    (role : Role) :
    (state.absorb reply id).Lists name role ↔
      state.Lists name role ∨ reply.Lists name role := by
  refine exists_absorb (fun media => ?_)
    (fun content reply same => Content.lists_absorb same name role) reply.contents state.contents
  cases role <;> simp [Content.Lists]

theorem mem_channelIdsFor_absorb (state reply : Conference) (id : ConferenceId)
    {media : MediaType} {name : String} :
    name ∈ (state.absorb reply id).channelIdsFor media ↔
      name ∈ state.channelIdsFor media ∨ name ∈ reply.channelIdsFor media := by
  simp only [mem_channelIdsFor]
  exact lists_absorb state reply id name (.channel media)

theorem mem_connectionIdsFor_absorb (state reply : Conference) (id : ConferenceId)
    {media : MediaType} {name : String} :
    name ∈ (state.absorb reply id).connectionIdsFor media ↔
      name ∈ state.connectionIdsFor media ∨ name ∈ reply.connectionIdsFor media := by
  simp only [mem_connectionIdsFor]
  refine exists_absorb (by simp) (fun content reply same => ?_) reply.contents state.contents
  simp only [Content.absorb, Keyed.holds_appendAll, Bool.or_eq_true, same]
  exact and_or_left

theorem merge_eq_ok {state reply : Conference} {id : ConferenceId}
    (named : reply.id = some id) (expected : ∀ held ∈ state.id, held = id)
    (complete : ∀ entry ∈ reply.entries, entry.name? ≠ none) :
    state.merge reply = .ok (state.absorb reply id) := by
  have sameConference : state.id.filter (· ≠ id) = none := by
    cases hosted : state.id with
    | none => rfl
    | some held => simp [expected held hosted]
  have noneUnnamed : reply.contents.find? (·.hasUnnamed) = none := by
    refine List.find?_eq_none.mpr fun content present unnamed => ?_
    simp only [Content.hasUnnamed, Bool.or_eq_true, List.any_eq_true,
      Option.isNone_iff_eq_none] at unnamed
    rcases unnamed with ⟨channel, within, nameless⟩ | ⟨connection, within, nameless⟩
    · exact complete (.channel content.media channel) (mem_entriesOf.mpr
        ⟨content, present, Content.mem_entries.mpr (.inl ⟨channel, within, rfl⟩)⟩) nameless
    · exact complete (.connection content.media connection) (mem_entriesOf.mpr
        ⟨content, present, Content.mem_entries.mpr (.inr ⟨connection, within, rfl⟩)⟩) nameless
  simp only [merge, validate, named, sameConference, noneUnnamed]
  rfl

/-- A reply that is merged names a conference, and no other than the one held. -/
theorem called_of_merge {state reply merged : Conference}
    (merges : state.merge reply = .ok merged) :
    ∃ id, reply.id = some id ∧ (∀ held ∈ state.id, held = id) ∧
      merged = state.absorb reply id := by
  unfold merge validate at merges
  cases named : reply.id with
  | none =>
      rw [named] at merges
      cases merges
  | some id =>
      rw [named] at merges
      dsimp only at merges
      split at merges
      · cases merges
      · next sameConference =>
          split at merges
          · cases merges
          · cases merges
            refine ⟨id, rfl, fun held hosted => ?_, rfl⟩
            simpa using Option.filter_eq_none_iff.mp sameConference held hosted

theorem absorb_of_merge {state reply merged : Conference}
    (merges : state.merge reply = .ok merged) :
    ∃ id, reply.id = some id ∧ merged = state.absorb reply id := by
  obtain ⟨id, named, _, absorbed⟩ := called_of_merge merges
  exact ⟨id, named, absorbed⟩

theorem lists_of_lists_restrictTo {reply : Conference} {requested : List MediaContent}
    {name : String} {role : Role} (listed : (reply.restrictTo requested).Lists name role) :
    reply.Lists name role := by
  obtain ⟨content, kept, listed⟩ := listed
  exact ⟨content, (List.mem_filter.mp kept).1, listed⟩

/-- Nothing is lost of a reply in which every entry is about a medium that was asked for. -/
theorem entries_restrictTo {reply : Conference} {requested : List MediaContent}
    (covered : ∀ entry ∈ reply.entries, ∃ request ∈ requested, entry.media? = some request.media) :
    (reply.restrictTo requested).entries = reply.entries := by
  unfold entries entriesOf restrictTo at *
  generalize reply.contents = contents at covered ⊢
  dsimp only
  induction contents with
  | nil => rfl
  | cons content rest ih =>
      rw [List.flatMap_cons] at covered ⊢
      obtain ⟨first, later⟩ := List.forall_mem_append.mp covered
      by_cases kept : (requested.any fun request => request.media = content.media) = true
      · rw [List.filter_cons, if_pos kept, List.flatMap_cons, ih later]
      · have bare : content.entries = [] := by
          refine List.eq_nil_iff_forall_not_mem.mpr fun entry within => kept ?_
          obtain ⟨request, asked, sameMedia⟩ := first entry within
          rw [Content.media?_of_mem within, Option.some_inj] at sameMedia
          exact List.any_eq_true.mpr ⟨request, asked, decide_eq_true sameMedia.symm⟩
        rw [List.filter_cons, if_neg kept, ih later, bare, List.nil_append]

end Conference

end Merging

end ConferenceFocus.Colibri
