import ConferenceFocus.Proofs.EntrySlots
import ConferenceFocus.Proofs.NovelEntries

/-!
# Merging as a union

A reply may repeat a medium, and an identifier within it.  Its contents are taken in one
after the other, each into a list that the ones before have made longer; what comes of it
is said in one step.  `Conference.gathered` collects all that a reply says of a medium,
and `Keyed.novel` what of it is new: the first of each identifier that is not there yet.
-/

namespace ConferenceFocus.Colibri

open Keyed (key)

namespace Content

/-- What a reply says of a medium that a content of it does not have. -/
def novel (content reply : Content) : Content :=
  { media := content.media
    channels := Keyed.novel content.channels reply.channels
    connections := Keyed.novel content.connections reply.connections }

theorem absorb_eq_join_novel (content reply : Content) :
    content.absorb reply = content.join (content.novel reply) := by
  rw [absorb, Keyed.appendAll_eq_append_novel, Keyed.appendAll_eq_append_novel]
  rfl

/-- Contents that are taken in one after the other are taken in as one. -/
theorem absorb_absorb (content first second : Content) :
    (content.absorb first).absorb second = content.absorb (first.join second) := by
  simp only [absorb, join, Keyed.appendAll_appendAll]

/-- What was part of something taken in is there already. -/
theorem absorb_absorb_of_subset {content whole part : Content}
    (channels : part.channels ⊆ whole.channels)
    (connections : part.connections ⊆ whole.connections) :
    (content.absorb whole).absorb part = content.absorb whole := by
  have channelsTaken : ∀ channel ∈ part.channels,
      Keyed.holds (Keyed.appendAll content.channels whole.channels) (key channel) = true := by
    intro channel within
    rw [Keyed.holds_appendAll, Bool.or_eq_true]
    exact .inr (Keyed.holds_iff.mpr ⟨channel, channels within, rfl⟩)
  have connectionsTaken : ∀ connection ∈ part.connections,
      Keyed.holds (Keyed.appendAll content.connections whole.connections) (key connection) =
        true := by
    intro connection within
    rw [Keyed.holds_appendAll, Bool.or_eq_true]
    exact .inr (Keyed.holds_iff.mpr ⟨connection, connections within, rfl⟩)
  simp only [absorb, Keyed.appendAll_of_holds channelsTaken,
    Keyed.appendAll_of_holds connectionsTaken]

end Content

/-- Takes a content of a reply into the first content of its medium. -/
def absorbContent (contents : List Content) (reply : Content) : List Content :=
  modifyContent reply.media (·.absorb reply) contents

def absorbAll (contents replies : List Content) : List Content :=
  replies.foldl absorbContent contents

theorem absorbAll_cons (contents : List Content) (reply : Content) (rest : List Content) :
    absorbAll contents (reply :: rest) = absorbAll (absorbContent contents reply) rest := rfl

/-- All that the contents of a medium say, as one content. -/
def gather (media : MediaType) (contents : List Content) : Content :=
  { media
    channels := (contents.filter (·.media = media)).flatMap (·.channels)
    connections := (contents.filter (·.media = media)).flatMap (·.connections) }

section Absorbing

variable {media : MediaType} {first reply : Content} {contents rest : List Content}

theorem absorbContent_cons (same : first.media = reply.media) (rest : List Content) :
    absorbContent (first :: rest) reply = first.absorb reply :: rest :=
  if_pos same

theorem filter_absorbContent_of_ne (different : media ≠ reply.media) (contents : List Content) :
    (absorbContent contents reply).filter (·.media = media) =
      contents.filter (·.media = media) := by
  unfold absorbContent
  induction contents with
  | nil => simp [modifyContent, Content.absorb, Ne.symm different]
  | cons content rest ih =>
      by_cases same : content.media = reply.media
      · simp [modifyContent, Content.absorb, same, Ne.symm different]
      · rw [modifyContent, if_neg same, List.filter_cons, List.filter_cons, ih]

theorem filter_absorbContent_self (reply : Content) (contents : List Content) :
    (absorbContent contents reply).filter (·.media = reply.media) =
      absorbContent (contents.filter (·.media = reply.media)) reply := by
  unfold absorbContent
  induction contents with
  | nil => simp [modifyContent, Content.absorb]
  | cons content rest ih =>
      by_cases same : content.media = reply.media
      · simp [modifyContent, Content.absorb, same]
      · simp [modifyContent, same, ih]

/-- A medium sees nothing of what is taken in for others. -/
theorem filter_absorbAll (contents replies : List Content) :
    (absorbAll contents replies).filter (·.media = media) =
      absorbAll (contents.filter (·.media = media)) (replies.filter (·.media = media)) := by
  induction replies generalizing contents with
  | nil => rfl
  | cons reply rest ih =>
      refine (ih (absorbContent contents reply)).trans ?_
      by_cases same : reply.media = media
      · subst same
        rw [filter_absorbContent_self, List.filter_cons_of_pos (by simp)]
        rfl
      · rw [filter_absorbContent_of_ne (Ne.symm same),
          List.filter_cons_of_neg (by simpa using same)]

/-- Where a medium has a content, the first one takes in all that is said of the medium. -/
theorem absorbAll_filter_cons (same : first.media = media) (rest replies : List Content) :
    absorbAll (first :: rest) (replies.filter (·.media = media)) =
      first.absorb (gather media replies) :: rest := by
  induction replies generalizing first with
  | nil => rfl
  | cons reply others ih =>
      by_cases here : reply.media = media
      · have grown : (first.absorb reply).media = media := same
        have joined : gather media (reply :: others) =
            { media, channels := reply.channels ++ (gather media others).channels,
              connections := reply.connections ++ (gather media others).connections } := by
          simp [gather, here]
        calc
          absorbAll (first :: rest) ((reply :: others).filter (·.media = media))
          _ = absorbAll (absorbContent (first :: rest) reply)
              (others.filter (·.media = media)) := by
            rw [List.filter_cons_of_pos (by simpa using here), absorbAll_cons]
          _ = (first.absorb reply).absorb (gather media others) :: rest := by
            rw [absorbContent_cons (same.trans here.symm), ih grown]
          _ = first.absorb (gather media (reply :: others)) :: rest := by
            rw [Content.absorb_absorb, joined]
            rfl
      · rw [List.filter_cons_of_neg (by simpa using here), ih same]
        simp [gather, here]

theorem absorbAll_filter_nil (replies : List Content) :
    absorbAll [] (replies.filter (·.media = media)) =
      if (replies.find? (·.media = media)).isSome then
        [({ media } : Content).absorb (gather media replies)]
      else [] := by
  induction replies with
  | nil => rfl
  | cons reply others ih =>
      by_cases here : reply.media = media
      · subst here
        -- The first content that is made for the medium takes in the rest as any other does.
        have first : absorbContent [] reply = absorbContent [{ media := reply.media }] reply :=
          (if_pos rfl).symm
        have made : absorbAll [] ((reply :: others).filter (·.media = reply.media)) =
            absorbAll [{ media := reply.media }]
              ((reply :: others).filter (·.media = reply.media)) := by
          rw [List.filter_cons_of_pos (by simp), absorbAll_cons, absorbAll_cons, first]
        rw [made, absorbAll_filter_cons rfl, if_pos (by simp)]
      · rw [List.filter_cons_of_neg (by simpa using here), ih]
        simp [gather, here]

/-- What is left of one medium: its first content, which is made if there is none, has taken
in all that is said of the medium, and the others are as they were. -/
theorem filter_absorbAll_eq (media : MediaType) (contents replies : List Content) :
    (absorbAll contents replies).filter (·.media = media) =
      match contents.filter (·.media = media) with
      | first :: rest => first.absorb (gather media replies) :: rest
      | [] =>
          if (replies.find? (·.media = media)).isSome then
            [({ media } : Content).absorb (gather media replies)]
          else [] := by
  rw [filter_absorbAll]
  cases listed : contents.filter (·.media = media) with
  | nil => exact absorbAll_filter_nil replies
  | cons first rest =>
      have same : first ∈ contents.filter (·.media = media) := listed ▸ List.mem_cons_self
      exact absorbAll_filter_cons (of_decide_eq_true (List.mem_filter.mp same).2) rest replies

theorem tail_filter_absorbAll (media : MediaType) (contents replies : List Content) :
    ((absorbAll contents replies).filter (·.media = media)).tail =
      (contents.filter (·.media = media)).tail := by
  rw [filter_absorbAll_eq]
  cases contents.filter (·.media = media) with
  | nil => dsimp only; split <;> rfl
  | cons first rest => rfl

theorem find?_absorbAll (media : MediaType) (contents replies : List Content) :
    (absorbAll contents replies).find? (·.media = media) =
      let content := (contents.find? (·.media = media)).getD { media }
      if (contents.find? (·.media = media)).isSome || (replies.find? (·.media = media)).isSome then
        some (content.absorb (gather media replies))
      else none := by
  rw [← List.head?_filter, ← List.head?_filter, filter_absorbAll_eq]
  cases contents.filter (·.media = media) with
  | nil => cases (replies.find? (·.media = media)).isSome <;> simp
  | cons first rest => rfl

/-- A content whose entries are all there already is taken in without a trace. -/
theorem absorbContent_eq_self (found : contents.find? (·.media = reply.media) = some first)
    (same : first.absorb reply = first) : absorbContent contents reply = contents := by
  unfold absorbContent
  induction contents with
  | nil => cases found
  | cons content rest ih =>
      by_cases here : content.media = reply.media
      · rw [List.find?_cons_of_pos (by simpa using here), Option.some_inj] at found
        rw [modifyContent, if_pos here, found, same]
      · rw [List.find?_cons_of_neg (by simpa using here)] at found
        rw [modifyContent, if_neg here, ih found]

/-- To take the same contents in once more changes nothing. -/
theorem absorbAll_absorbAll (contents replies : List Content) :
    absorbAll (absorbAll contents replies) replies = absorbAll contents replies := by
  refine List.foldlRecOn (motive := (· = absorbAll contents replies)) replies absorbContent rfl ?_
  rintro _ rfl reply listed
  let content := (contents.find? (·.media = reply.media)).getD { media := reply.media }
  have known : (replies.find? (·.media = reply.media)).isSome = true :=
    List.find?_isSome.mpr ⟨reply, listed, by simp⟩
  have found : (absorbAll contents replies).find? (·.media = reply.media) =
      some (content.absorb (gather reply.media replies)) := by
    rw [find?_absorbAll, known, Bool.or_true, if_pos rfl]
  have own : reply ∈ replies.filter (·.media = reply.media) :=
    List.mem_filter.mpr ⟨listed, by simp⟩
  refine absorbContent_eq_self found (Content.absorb_absorb_of_subset ?_ ?_)
  · exact fun channel within => List.mem_flatMap.mpr ⟨reply, own, within⟩
  · exact fun connection within => List.mem_flatMap.mpr ⟨reply, own, within⟩

end Absorbing

namespace Content

/-- A content stays what it is, but for entries that are put behind those that it has. -/
structure GrowsTo (content grown : Content) : Prop where
  media : grown.media = content.media
  channels : content.channels <+: grown.channels
  connections : content.connections <+: grown.connections

theorem GrowsTo.refl (content : Content) : content.GrowsTo content :=
  ⟨rfl, List.prefix_refl _, List.prefix_refl _⟩

theorem GrowsTo.trans {first second third : Content} (one : first.GrowsTo second)
    (other : second.GrowsTo third) : first.GrowsTo third :=
  ⟨other.media.trans one.media, one.channels.trans other.channels,
    one.connections.trans other.connections⟩

theorem growsTo_absorb (content reply : Content) : content.GrowsTo (content.absorb reply) :=
  ⟨rfl, Keyed.prefix_appendAll _ _, Keyed.prefix_appendAll _ _⟩

end Content

section Positions

variable {contents : List Content} {content : Content} {position : Nat}

theorem exists_growsTo_absorbContent (reply : Content)
    (found : contents[position]? = some content) :
    ∃ grown, (absorbContent contents reply)[position]? = some grown ∧ content.GrowsTo grown := by
  unfold absorbContent
  induction contents generalizing position with
  | nil => cases found
  | cons first rest ih =>
      unfold modifyContent
      split
      · cases position with
        | zero =>
            cases found
            exact ⟨_, rfl, content.growsTo_absorb reply⟩
        | succ later => exact ⟨content, found, .refl content⟩
      · cases position with
        | zero => exact ⟨content, found, .refl content⟩
        | succ later => exact ih found

theorem exists_growsTo_absorbAll (replies : List Content)
    (found : contents[position]? = some content) :
    ∃ grown, (absorbAll contents replies)[position]? = some grown ∧ content.GrowsTo grown := by
  induction replies generalizing contents content with
  | nil => exact ⟨content, found, .refl content⟩
  | cons reply rest ih =>
      obtain ⟨next, foundNext, grows⟩ := exists_growsTo_absorbContent reply found
      obtain ⟨grown, foundGrown, growsOn⟩ := ih foundNext
      exact ⟨grown, foundGrown, grows.trans growsOn⟩

end Positions

namespace Conference

variable {state reply merged : Conference} {id : ConferenceId}

/-- A reply that can be taken in names the conference held, if one is, and all its entries. -/
structure Accepts (state reply : Conference) (id : ConferenceId) : Prop where
  named : reply.id = some id
  expected : ∀ held ∈ state.id, held = id
  channels : ∀ content ∈ reply.contents, ∀ channel ∈ content.channels, channel.id ≠ none
  connections :
    ∀ content ∈ reply.contents, ∀ connection ∈ content.connections, connection.id ≠ none

theorem merge_eq_ok_iff :
    state.merge reply = .ok merged ↔
      ∃ id, state.Accepts reply id ∧ merged = state.absorb reply id := by
  constructor
  · intro merges
    obtain ⟨id, named, expected, absorbed⟩ := called_of_merge merges
    have complete := complete_of_merge merges
    exact ⟨id, ⟨named, expected,
      fun content present => (Content.named_of_hasUnnamed (complete content present)).1,
      fun content present => (Content.named_of_hasUnnamed (complete content present)).2⟩, absorbed⟩
  · rintro ⟨id, accepts, rfl⟩
    refine merge_eq_ok accepts.named accepts.expected fun entry listed => ?_
    obtain ⟨content, present, within⟩ := mem_entriesOf.mp listed
    rcases Content.mem_entries.mp within with ⟨channel, held, rfl⟩ | ⟨connection, held, rfl⟩
    · exact accepts.channels content present channel held
    · exact accepts.connections content present connection held

/-- What has become of a conference that took a reply in. -/
structure Takes (state reply merged : Conference) : Prop where
  id : merged.id = reply.id
  name : merged.name = state.name.or reply.name
  /-- Every content keeps its position, and all that is in it. -/
  position : ∀ (position : Nat) (content : Content), state.contents[position]? = some content →
    ∃ grown, merged.contents[position]? = some grown ∧ content.GrowsTo grown
  /-- Of the contents of one medium none but the first changes. -/
  others : ∀ media, (merged.contents.filter (·.media = media)).tail =
    (state.contents.filter (·.media = media)).tail
  /-- The first gets what it does not have of all that the reply says of the medium. -/
  first : ∀ media, merged.content? media =
    let content := (state.content? media).getD { media }
    if (state.content? media).isSome || (reply.content? media).isSome then
      some (content.join (content.novel (gather media reply.contents)))
    else none
  bundles : merged.bundles = state.bundles ++ Keyed.novel state.bundles reply.bundles

theorem takes_absorb (named : reply.id = some id) : state.Takes reply (state.absorb reply id) where
  id := named.symm
  name := rfl
  position := fun _ _ found => exists_growsTo_absorbAll reply.contents found
  others := fun media => tail_filter_absorbAll media state.contents reply.contents
  first := by
    intro media
    simp only [← Content.absorb_eq_join_novel]
    exact find?_absorbAll media state.contents reply.contents
  bundles := Keyed.appendAll_eq_append_novel state.bundles reply.bundles

theorem absorb_absorb (state reply : Conference) (id : ConferenceId) :
    (state.absorb reply id).absorb reply id = state.absorb reply id := by
  have contents := absorbAll_absorbAll state.contents reply.contents
  have name : (state.name.or reply.name).or reply.name = state.name.or reply.name := by
    rw [Option.or_assoc, Option.or_self]
  have bundles : Keyed.appendAll (Keyed.appendAll state.bundles reply.bundles) reply.bundles =
      Keyed.appendAll state.bundles reply.bundles := by
    refine Keyed.appendAll_of_holds fun bundle replied => ?_
    rw [Keyed.holds_appendAll, Bool.or_eq_true]
    exact .inr (Keyed.holds_iff.mpr ⟨bundle, replied, rfl⟩)
  simp only [absorb, name, bundles]
  exact congrArg (Conference.mk (some id) _ · _) contents

/-- The same identifiers, under each medium and of each kind. -/
structure SameIds (left right : Conference) : Prop where
  channels : ∀ media name, name ∈ left.channelIdsFor media ↔ name ∈ right.channelIdsFor media
  connections : ∀ media name,
    name ∈ left.connectionIdsFor media ↔ name ∈ right.connectionIdsFor media
  bundles : ∀ name, Keyed.holds left.bundles name = Keyed.holds right.bundles name

theorem sameIds_absorb_absorb (state first second : Conference) (id : ConferenceId) :
    SameIds ((state.absorb first id).absorb second id)
      ((state.absorb second id).absorb first id) where
  channels := by
    intro media name
    simp only [mem_channelIdsFor_absorb]
    exact or_right_comm
  connections := by
    intro media name
    simp only [mem_connectionIdsFor_absorb]
    exact or_right_comm
  bundles := by
    intro name
    simp only [absorb, Keyed.holds_appendAll]
    exact Bool.or_right_comm _ _ _

/-- Whether a reply is accepted depends on the identifier of the conference held alone. -/
theorem Accepts.of_expected (accepts : state.Accepts reply id) {other : Conference}
    (expected : ∀ held ∈ other.id, held = id) : other.Accepts reply id :=
  { accepts with expected }

/-- To merge a reply is to take in what is new of it, and that is done once and for all:
the same reply finds nothing new afterwards, and of two replies either can come first. -/
theorem merges_are_unions (state : Conference) :
    (∀ reply, (∃ merged, state.merge reply = .ok merged) ↔ ∃ id, state.Accepts reply id) ∧
      (∀ reply merged, state.merge reply = .ok merged →
        state.Takes reply merged ∧ merged.merge reply = .ok merged) ∧
      ∀ first second one both, state.merge first = .ok one → one.merge second = .ok both →
        ∃ other swapped, state.merge second = .ok other ∧ other.merge first = .ok swapped ∧
          both.SameIds swapped := by
  refine ⟨fun reply => ?_, fun reply merged merges => ?_, fun first second one both => ?_⟩
  · constructor
    · rintro ⟨merged, merges⟩
      obtain ⟨id, accepts, _⟩ := merge_eq_ok_iff.mp merges
      exact ⟨id, accepts⟩
    · rintro ⟨id, accepts⟩
      exact ⟨_, merge_eq_ok_iff.mpr ⟨id, accepts, rfl⟩⟩
  · obtain ⟨id, accepts, rfl⟩ := merge_eq_ok_iff.mp merges
    have again : (state.absorb reply id).Accepts reply id :=
      accepts.of_expected fun held same => (Option.some.inj same).symm
    exact ⟨takes_absorb accepts.named,
      merge_eq_ok_iff.mpr ⟨id, again, (absorb_absorb state reply id).symm⟩⟩
  · intro firstMerges secondMerges
    obtain ⟨id, acceptsFirst, rfl⟩ := merge_eq_ok_iff.mp firstMerges
    obtain ⟨later, acceptsSecond, rfl⟩ := merge_eq_ok_iff.mp secondMerges
    obtain rfl : id = later := acceptsSecond.expected id rfl
    have secondAlone : state.Accepts second id := acceptsSecond.of_expected acceptsFirst.expected
    have firstAfter : (state.absorb second id).Accepts first id :=
      acceptsFirst.of_expected fun held same => (Option.some.inj same).symm
    exact ⟨_, _, merge_eq_ok_iff.mpr ⟨id, secondAlone, rfl⟩,
      merge_eq_ok_iff.mpr ⟨id, firstAfter, rfl⟩, sameIds_absorb_absorb state first second id⟩

/-- A reply repeats a medium and an identifier within it, and names an entry that is held.
The one before it has been about the same conference. -/
theorem merges_are_unions_of_repeated_medium :
    let first : Conference :=
      { id := some ⟨"c1"⟩, contents := [{ media := .audio, channels := [{ id := some "a1" }] }] }
    let second : Conference :=
      { id := some ⟨"c1"⟩, name := some "room",
        contents :=
          [{ media := .audio, channels := [{ id := some "a2" }, { id := some "a1" }] },
            { media := .data, connections := [{ id := some "s1" }] },
            { media := .audio,
              channels := [{ id := some "a3" }, { id := some "a2", expire := some 0 }] }] }
    ∃ one both other swapped,
      ({} : Conference).merge first = .ok one ∧ one.merge second = .ok both ∧
        one.Takes second both ∧ both.merge second = .ok both ∧
        both.content? .audio = some
          { media := .audio,
            channels := [{ id := some "a1" }, { id := some "a2" }, { id := some "a3" }] } ∧
        ({} : Conference).merge second = .ok other ∧ other.merge first = .ok swapped ∧
        both.SameIds swapped ∧ both ≠ swapped := by
  intro first second
  let one : Conference := ({} : Conference).absorb first ⟨"c1"⟩
  let both : Conference := one.absorb second ⟨"c1"⟩
  have firstMerges : ({} : Conference).merge first = .ok one := rfl
  have secondMerges : one.merge second = .ok both := rfl
  obtain ⟨_, _, commutes⟩ := merges_are_unions {}
  obtain ⟨_, takes, _⟩ := merges_are_unions one
  obtain ⟨other, swapped, secondAlone, firstAfter, same⟩ :=
    commutes first second one both firstMerges secondMerges
  obtain ⟨taken, again⟩ := takes second both secondMerges
  refine ⟨one, both, other, swapped, firstMerges, secondMerges, taken, again, by decide,
    secondAlone, firstAfter, same, fun equal => ?_⟩
  have reversed : ({} : Conference).merge second >>= (·.merge first) = .ok both := by
    rw [secondAlone, equal]
    exact firstAfter
  exact absurd reversed (by decide)

end Conference

end ConferenceFocus.Colibri
