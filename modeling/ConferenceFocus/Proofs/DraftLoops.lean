import ConferenceFocus.Colibri.Draft

/-!
# What the loops of a draft come to

Every kind of intent has a loop that puts something in and notes it, round after round, and
the flag of the draft is kept by hand beside them.  All the loops come to the same thing:
the entries of the intent are placed one after the other, and both the answer and the flag
say whether there were any.  What is said elsewhere of drafts is read off that equation.
-/

namespace ConferenceFocus.Colibri

section Loops

variable {σ α β : Type}

/-- To put entries into a state in one go or in several is the same. -/
structure Accumulates (put : σ → List Entry → σ) : Prop where
  nil : ∀ state, put state [] = state
  append : ∀ state entries more, put state (entries ++ more) = put (put state entries) more

namespace Accumulates

variable {put : σ → List Entry → σ} (accumulates : Accumulates put)
  {round : α → σ → Id (ForInStep σ)}

include accumulates

/-- Rounds that each put some entries in have together put in the entries of all. -/
theorem forIn_eq (asked : α → List Entry)
    (puts : ∀ item state, round item state = pure (.yield (put state (asked item))))
    (items : List α) (state : σ) :
    forIn items state round = (pure (put state (items.flatMap asked)) : Id σ) := by
  induction items generalizing state with
  | nil => rw [List.flatMap_nil, accumulates.nil, List.forIn_nil]
  | cons first rest ih =>
      rw [List.forIn_cons, puts, List.flatMap_cons, accumulates.append]
      exact ih _

/-- The same for rounds that pass over an item if no value is found for it. -/
theorem forIn_option_eq (value? : α → Option β) (asked : α → β → List Entry)
    (puts : ∀ item value state, value? item = some value →
      round item state = pure (.yield (put state (asked item value))))
    (passes : ∀ item state, value? item = none → round item state = pure (.yield state))
    (items : List α) (state : σ) :
    forIn items state round =
      (pure (put state (items.flatMap fun item => ((value? item).map (asked item)).getD [])) :
        Id σ) := by
  apply accumulates.forIn_eq
  intro item state
  cases found : value? item with
  | none => rw [passes item state found, Option.map_none, Option.getD_none, accumulates.nil]
  | some value => exact puts item value state found

/-- The same for rounds that put one entry in for the value that is found. -/
theorem forIn_filterMap_eq (value? : α → Option β) (entry : β → Entry)
    (puts : ∀ item value state, value? item = some value →
      round item state = pure (.yield (put state [entry value])))
    (passes : ∀ item state, value? item = none → round item state = pure (.yield state))
    (items : List α) (state : σ) :
    forIn items state round =
      (pure (put state ((items.filterMap value?).map entry)) : Id σ) := by
  have listed : (items.filterMap value?).map entry =
      items.flatMap fun item => ((value? item).map fun value => [entry value]).getD [] := by
    induction items with
    | nil => rfl
    | cons first rest ih =>
        rw [List.flatMap_cons, ← ih]
        cases found : value? first <;> simp [found]
  rw [listed]
  exact accumulates.forIn_option_eq value? (fun _ value => [entry value]) puts passes items state

/-- What is put in by a loop and then by what comes behind it is put in one after the other. -/
theorem bind_eq {loop : Id σ} {rest : σ → Id (ForInStep σ)} {state : σ}
    {entries more : List Entry} (first : loop = pure (put state entries))
    (later : rest (put state entries) = pure (.yield (put (put state entries) more))) :
    (loop >>= rest) = pure (.yield (put state (entries ++ more))) := by
  rw [first, pure_bind, later, accumulates.append]

end Accumulates

theorem bind_yield_eq {loop : Id σ} {state : σ} (ends : loop = pure state) :
    (do let state ← loop; return .yield state) = (pure (.yield state) : Id (ForInStep σ)) := by
  rw [ends, pure_bind]

end Loops

namespace Draft

def placeAll (draft : Draft) (entries : List Entry) : Draft :=
  { draft with conference := entries.foldl Conference.place draft.conference }

/-- Places entries in the draft a loop has come to, and notes whether there were any. -/
def placeNoted (progress : Draft × Bool) (entries : List Entry) : Draft × Bool :=
  (progress.1.placeAll entries, progress.2 || !entries.isEmpty)

/-- The draft after an intent with these entries, and what the intent is told. -/
def gather (draft : Draft) (entries : List Entry) : Draft × Bool :=
  ({ draft.placeAll entries with hasContent := draft.hasContent || !entries.isEmpty },
    !entries.isEmpty)

theorem accumulates_placeAll : Accumulates placeAll where
  nil _ := rfl
  append draft entries more := by simp only [placeAll, List.foldl_append]

theorem accumulates_placeNoted : Accumulates placeNoted where
  nil progress := by simp [placeNoted, placeAll]
  append progress entries more := by
    unfold placeNoted
    rw [accumulates_placeAll.append]
    cases entries <;> simp

theorem placeNoted_singleton (progress : Draft × Bool) (entry : Entry) :
    placeNoted progress [entry] = (progress.1.placeAll [entry], true) := by
  simp [placeNoted]

/-- A loop that in each round puts one entry in and notes it. -/
theorem forIn_eq_placeNoted {α : Type} (entry : α → Entry)
    {round : α → Draft × Bool → Id (ForInStep (Draft × Bool))}
    (puts : ∀ item progress,
      round item progress = pure (.yield (progress.1.placeAll [entry item], true)))
    (items : List α) (progress : Draft × Bool) :
    forIn items progress round =
      (pure (placeNoted progress (items.map entry)) : Id (Draft × Bool)) := by
  rw [List.map_eq_flatMap]
  apply accumulates_placeNoted.forIn_eq
  intro item progress
  rw [puts, placeNoted_singleton]

section Adding

variable (draft : Draft)

/-- The end of most loops: the flag is raised if anything has been noted. -/
theorem bind_eq_gather {loop : Id (Draft × Bool)} {entries : List Entry}
    (ends : loop = pure (placeNoted (draft, false) entries)) :
    (Id.run do
      let progress ← loop
      return ({ progress.1 with hasContent := progress.1.hasContent || progress.2 },
        progress.2)) = draft.gather entries := by
  rw [ends]
  rfl

/-- A bundle that is only named is put in if no bundle of the draft has the name. -/
theorem placeAll_bundleName (id : String) :
    draft.placeAll [.bundleName id] =
      if (draft.conference.bundle? id).isNone then draft.putBundle { id } else draft := by
  have known := Keyed.isSome_find? draft.conference.bundles id
  unfold Conference.bundle?
  cases found : Keyed.find? draft.conference.bundles id <;>
    simp_all [placeAll, Conference.place, putBundle, Keyed.append, Keyed.key]

theorem addAllocation_eq (useBundle : Bool) (endpoint : EndpointId) (initiator : Bool)
    (contents : List MediaContent) :
    draft.addAllocation useBundle endpoint initiator contents =
      draft.gather ((Intent.allocate useBundle endpoint initiator contents).entries
        draft.settings) := by
  dsimp only [addAllocation, Intent.entries]
  generalize (if useBundle = true then some endpoint.text else none) = bundle
  rw [forIn_eq_placeNoted (Intent.allocation draft.settings bundle endpoint initiator), pure_bind]
  · obtain ⟨asked, listed⟩ : ∃ asked,
        contents.map (Intent.allocation draft.settings bundle endpoint initiator) = asked :=
      ⟨_, rfl⟩
    have idle : contents.isEmpty = asked.isEmpty := by rw [← listed, List.isEmpty_map]
    rw [listed, idle]
    cases asked with
    | nil => simp [gather, placeNoted, placeAll]
    | cons first rest =>
        cases bundle with
        | none => simp [gather, placeNoted]
        | some id =>
            -- The bundle is looked for among what the contents have left in the draft.
            have named : (first :: rest ++ [Entry.bundleName id]).isEmpty = false := rfl
            simp only [Option.map_some, Option.toList_some, List.isEmpty_cons, Bool.false_eq_true,
              if_false, gather, named, accumulates_placeAll.append, placeAll_bundleName,
              placeNoted, Bool.not_false, Bool.or_true, Option.filter_some, if_true]
            by_cases absent :
                ((draft.placeAll (first :: rest)).conference.bundle? id).isNone = true
            · simp only [if_pos absent]
              rfl
            · simp only [if_neg absent]
              rfl
  · intro content progress
    obtain ⟨media, description, sources, groups⟩ := content
    cases media <;> rfl

theorem addExpiry_eq (channels : Conference) :
    draft.addExpiry channels =
      draft.gather ((Intent.expire channels).entries draft.settings) := by
  apply bind_eq_gather
  apply accumulates_placeNoted.forIn_eq
  intro content progress
  apply accumulates_placeNoted.bind_eq
  · apply accumulates_placeNoted.forIn_filterMap_eq Channel.id
    · intro channel id progress named
      rw [named, placeNoted_singleton]
      rfl
    · intro channel progress unnamed
      rw [unnamed]
  · apply bind_yield_eq
    apply accumulates_placeNoted.forIn_filterMap_eq SctpConnection.id
    · intro connection id progress named
      rw [named, placeNoted_singleton]
      rfl
    · intro connection progress unnamed
      rw [unnamed]

theorem addCodecs_eq (descriptions : MediaMap RtpDescription) (channels : Conference) :
    draft.addCodecs descriptions channels =
      draft.gather ((Intent.updateCodecs descriptions channels).entries draft.settings) := by
  apply bind_eq_gather
  apply accumulates_placeNoted.forIn_option_eq
    (fun update : MediaType × RtpDescription => channels.content? update.1)
    fun update content => content.channelIds.map fun id =>
      .channel update.1 { id := some id, payloadTypes := update.2.payloadTypes }
  · intro update content progress found
    dsimp only at found ⊢
    rw [found]
    apply bind_yield_eq
    apply forIn_eq_placeNoted
    exact fun id progress => rfl
  · intro update progress lacking
    dsimp only at lacking ⊢
    rw [lacking]

theorem addTransports_eq (initiator : Bool) (transports : MediaMap IceUdpTransport)
    (channels : Conference) :
    draft.addTransports initiator transports channels =
      draft.gather ((Intent.updateTransports initiator transports channels).entries
        draft.settings) := by
  apply bind_eq_gather
  apply accumulates_placeNoted.forIn_option_eq
    (fun update : MediaType × IceUdpTransport => channels.content? update.1)
    fun update content =>
      (content.channelIds.map fun id =>
          Entry.channel update.1
            { id := some id, initiator := some initiator, transport := some update.2 }) ++
        content.connectionIds.map fun id =>
          Entry.connection update.1
            { id := some id, initiator := some initiator, transport := some update.2 }
  · intro update content progress found
    dsimp only at found ⊢
    rw [found]
    apply accumulates_placeNoted.bind_eq
    · apply forIn_eq_placeNoted
      exact fun id progress => rfl
    · apply bind_yield_eq
      apply forIn_eq_placeNoted
      exact fun id progress => rfl
  · intro update progress lacking
    dsimp only at lacking ⊢
    rw [lacking]

/-- Here the loop notes nothing: a bundle is asked for in any case. -/
theorem addBundle_eq (initiator : Bool) (transport : IceUdpTransport) (channels : Conference) :
    draft.addBundle initiator transport channels =
      draft.gather ((Intent.updateBundle initiator transport channels).entries
        draft.settings) := by
  dsimp only [addBundle, Intent.entries]
  cases spoken : channels.contents.findSome? Intent.bundleOf? with
  | none => simp [gather, placeAll]
  | some bundle =>
      dsimp only
      rw [accumulates_placeAll.forIn_eq fun content =>
        (content.channels.filter (·.bundle = some bundle)).filterMap fun channel =>
          channel.id.map fun id =>
            .channel content.media { id := some id, initiator := some initiator }]
      · simp [gather, placeAll, putBundle, List.foldl_append, Conference.place]
      intro content draft
      have tied : (content.channels.filter (·.bundle = some bundle)).filterMap (·.id) =
          content.channels.filterMap fun channel =>
            if channel.bundle = some bundle then channel.id else none := by
        simp [List.filterMap_filter]
      rw [← List.map_filterMap, tied]
      apply bind_yield_eq
      apply accumulates_placeAll.forIn_filterMap_eq
      · intro channel id draft named
        by_cases within : channel.bundle = some bundle
        · rw [if_pos within] at named
          rw [if_neg (not_not_intro within), named]
          rfl
        · rw [if_neg within] at named
          cases named
      · intro channel draft unnamed
        by_cases within : channel.bundle = some bundle
        · rw [if_pos within] at unnamed
          rw [if_neg (not_not_intro within), unnamed]
        · rw [if_pos within]

theorem addStreams_eq (streams : Streams) (channels : Conference) :
    draft.addStreams streams channels =
      draft.gather ((Intent.replaceStreams streams channels).entries draft.settings) := by
  apply bind_eq_gather
  apply accumulates_placeNoted.forIn_eq
  intro content progress
  apply bind_yield_eq
  apply forIn_eq_placeNoted
  exact fun id progress => rfl

theorem addDirection_eq (direction : Direction) (channels : Conference) :
    draft.addDirection direction channels =
      draft.gather ((Intent.setDirection direction channels).entries draft.settings) := by
  apply bind_eq_gather
  apply accumulates_placeNoted.forIn_option_eq channels.content? fun media content =>
    content.channelIds.map fun id => .channel media { id := some id, direction := some direction }
  · intro media content progress found
    rw [found]
    apply bind_yield_eq
    apply forIn_eq_placeNoted
    exact fun id progress => rfl
  · intro media progress lacking
    rw [lacking]

/-- Whatever the intent, its entries are placed in the draft, and the answer and the flag say
whether there were any. -/
theorem add_eq_gather (intent : Intent) :
    draft.add intent = draft.gather (intent.entries draft.settings) := by
  cases intent with
  | allocate useBundle endpoint initiator contents => exact draft.addAllocation_eq ..
  | expire channels => exact draft.addExpiry_eq channels
  | updateCodecs descriptions channels => exact draft.addCodecs_eq descriptions channels
  | updateTransports initiator transports channels => exact draft.addTransports_eq ..
  | updateBundle initiator transport channels => exact draft.addBundle_eq ..
  | replaceStreams streams channels => exact draft.addStreams_eq streams channels
  | setDirection direction channels => exact draft.addDirection_eq direction channels

end Adding

end Draft

section Finishing

theorem forall_mem_modifyContent {media : MediaType} {change : Content → Content}
    {has : Content → Prop} (made : ∀ content, has (change content)) {contents : List Content}
    (kept : ∀ content ∈ contents, has content) :
    ∀ content ∈ modifyContent media change contents, has content := by
  induction contents with
  | nil => simpa [modifyContent] using made { media }
  | cons first rest ih =>
      obtain ⟨firstKept, restKept⟩ := List.forall_mem_cons.mp kept
      unfold modifyContent
      split
      · exact List.forall_mem_cons.mpr ⟨made first, restKept⟩
      · exact List.forall_mem_cons.mpr ⟨firstKept, ih restKept⟩

/-- A content is made only to have something put in. -/
theorem Conference.filled_foldl_place {conference : Conference} (placed : List Entry)
    (filled : ∀ content ∈ conference.contents, content.isEmpty = false) :
    ∀ content ∈ (placed.foldl place conference).contents, content.isEmpty = false := by
  induction placed generalizing conference with
  | nil => exact filled
  | cons first rest ih =>
      apply ih
      cases first with
      | channel media channel =>
          exact forall_mem_modifyContent (fun _ => by simp [Content.isEmpty, Content.addChannel])
            filled
      | connection media connection =>
          exact forall_mem_modifyContent
            (fun _ => by simp [Content.isEmpty, Content.addConnection]) filled
      | bundle | bundleName => exact filled

namespace Draft

/-- No content is dropped from a draft in which none is empty. -/
theorem request?_of_filled {draft : Draft}
    (filled : ∀ content ∈ draft.conference.contents, content.isEmpty = false)
    (bridge : BridgeAddress) (seq : UInt64) :
    draft.request? bridge seq =
      if draft.hasContent = true then some { bridge, seq, conference := draft.conference }
      else none := by
  have kept : draft.conference.contents.filter (!·.isEmpty) = draft.conference.contents :=
    List.filter_eq_self.mpr fun content listed => by simp [filled content listed]
  unfold request?
  rw [kept]
  cases draft.hasContent <;> rfl

/-- The request for one intent: none if it has no entries. -/
theorem request?_add_about (settings : Settings) (id : Option ConferenceId)
    (name : Option String) (intent : Intent) (bridge : BridgeAddress) (seq : UInt64) :
    ((about settings id name).add intent).1.request? bridge seq =
      if intent.entries settings = [] then none
      else some
        { bridge, seq,
          conference := (intent.entries settings).foldl Conference.place { id, name } } := by
  rw [add_eq_gather, request?_of_filled (Conference.filled_foldl_place _ (by simp [about]))]
  cases asked : intent.entries settings <;> simp [gather, about, placeAll, asked]

end Draft

end Finishing

end ConferenceFocus.Colibri
