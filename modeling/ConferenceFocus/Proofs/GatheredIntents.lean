import ConferenceFocus.Proofs.DraftLoops
import ConferenceFocus.Proofs.EntrySlots
import ConferenceFocus.Proofs.IntentEntries

/-!
# What a draft gathers

Intents are added to a draft one after the other, and each is told whether it asked for
anything.  What it is told can be relied on: the draft has grown, or is what it was.  The
flag of the draft agrees with the answers and with what has been put in, so that a request
is made just if there is something in it.  In the request each list is made up of what the
intents, each in a draft of its own, would have put into that list.
-/

namespace ConferenceFocus.Colibri

namespace Conference

/-- The number of channels, connections and bundles. -/
def size (conference : Conference) : Nat :=
  conference.entries.length + conference.bundles.length

/-- All that was in a conference is where it was, and at least one thing has come behind it. -/
structure Grows (before after : Conference) : Prop where
  id : after.id = before.id
  name : after.name = before.name
  entriesAt : ∀ slot, before.entriesAt slot <+: after.entriesAt slot
  bundles : before.bundles <+: after.bundles
  size : before.size < after.size

section Placing

variable {conference : Conference}

theorem bundles_prefix_place (conference : Conference) (placed : Entry) :
    conference.bundles <+: (conference.place placed).bundles := by
  cases placed with
  | channel | connection => exact List.prefix_refl _
  | bundle bundle => exact List.prefix_append _ _
  | bundleName id => exact Keyed.prefix_appendAll conference.bundles [{ id }]

theorem bundles_prefix_foldl_place (placed : List Entry) (conference : Conference) :
    conference.bundles <+: (placed.foldl place conference).bundles := by
  induction placed generalizing conference with
  | nil => exact List.prefix_refl _
  | cons first rest ih => exact (bundles_prefix_place conference first).trans (ih _)

theorem length_entries_place (conference : Conference) (placed : Entry) :
    (conference.place placed).entries.length =
      conference.entries.length + if placed.role = .bundle then 0 else 1 := by
  rw [(perm_entries_place conference placed).length_eq, List.length_append]
  by_cases bundle : placed.role = .bundle <;> simp [bundle]

theorem size_le_place (conference : Conference) (placed : Entry) :
    conference.size ≤ (conference.place placed).size := by
  have entries := length_entries_place conference placed
  have bundles := (bundles_prefix_place conference placed).length_le
  unfold size
  omega

/-- A bundle that is only named may be there already; all else is put in. -/
theorem size_lt_place (conference : Conference) {placed : Entry}
    (made : ∀ id, placed ≠ .bundleName id) :
    conference.size < (conference.place placed).size := by
  have entries := length_entries_place conference placed
  have bundles := (bundles_prefix_place conference placed).length_le
  cases placed with
  | channel | connection =>
      simp only [Entry.role, reduceCtorEq, if_false] at entries
      unfold size
      omega
  | bundle bundle =>
      have grown : (conference.place (.bundle bundle)).bundles.length =
          conference.bundles.length + 1 := List.length_append
      simp only [Entry.role, if_true] at entries
      unfold size
      omega
  | bundleName id => exact absurd rfl (made id)

theorem size_le_foldl_place (placed : List Entry) (conference : Conference) :
    conference.size ≤ (placed.foldl place conference).size := by
  induction placed generalizing conference with
  | nil => exact Nat.le_refl _
  | cons first rest ih => exact Nat.le_trans (size_le_place conference first) (ih _)

theorem size_lt_foldl_place {placed : List Entry} {entry : Entry} (listed : entry ∈ placed)
    (made : ∀ id, entry ≠ .bundleName id) (conference : Conference) :
    conference.size < (placed.foldl place conference).size := by
  obtain ⟨earlier, later, rfl⟩ := List.append_of_mem listed
  rw [List.foldl_append, List.foldl_cons]
  calc
    conference.size ≤ (earlier.foldl place conference).size := size_le_foldl_place earlier _
    _ < ((earlier.foldl place conference).place entry).size := size_lt_place _ made
    _ ≤ _ := size_le_foldl_place later _

theorem isEmpty_place (conference : Conference) (placed : Entry) :
    (conference.place placed).isEmpty = false := by
  refine Bool.eq_false_iff.mpr fun empty => ?_
  have bare : (conference.place placed).bundles = [] := by
    simp only [isEmpty, Bool.and_eq_true, List.isEmpty_iff] at empty
    exact empty.2
  by_cases proper : placed.role = .bundle
  · cases placed with
    | channel | connection => cases proper
    | bundle bundle => simp [place] at bare
    | bundleName id =>
        obtain ⟨bundle, present, _⟩ :=
          Keyed.exists_mem_append conference.bundles ({ id } : ChannelBundle)
        rw [show Keyed.append conference.bundles { id } = [] from bare] at present
        exact List.not_mem_nil present
  · have present := (mem_entries_place conference placed placed).mpr (.inr ⟨rfl, proper⟩)
    rw [entries_eq_nil_of_isEmpty empty] at present
    exact List.not_mem_nil present

/-- Only a draft to which nothing is added stays empty. -/
theorem isEmpty_foldl_place {conference : Conference} (empty : conference.isEmpty = true)
    (placed : List Entry) :
    (placed.foldl place conference).isEmpty = true ↔ placed = [] := by
  rcases List.eq_nil_or_concat placed with rfl | ⟨earlier, last, rfl⟩
  · simp [empty]
  · simp [isEmpty_place]

end Placing

end Conference

namespace Intent

theorem bundleName_notMem_entries {settings : Settings} {intent : Intent} {channels : Conference}
    (about : intent.channels? = some channels) (id : String) :
    .bundleName id ∉ intent.entries settings := by
  intro asked
  cases intent with
  | allocate useBundle endpoint initiator contents => cases about
  | updateBundle initiator transport other =>
      simp only [entries] at asked
      split at asked <;> simp at asked
  | expire other => simp [entries, expiry] at asked
  | updateCodecs descriptions other =>
      unfold entries at asked
      obtain ⟨_, _, _, asked⟩ := mem_perMedium asked
      simp at asked
  | updateTransports initiator transports other =>
      unfold entries at asked
      obtain ⟨_, _, _, asked⟩ := mem_perMedium asked
      simp at asked
  | replaceStreams streams other => simp [entries] at asked
  | setDirection direction other =>
      obtain ⟨media, _, asked⟩ := List.mem_flatMap.mp asked
      cases found : other.content? media <;> simp [found] at asked

/-- An intent that asks for anything asks for more than to name a bundle. -/
theorem exists_made {settings : Settings} {intent : Intent}
    (asks : intent.entries settings ≠ []) :
    ∃ entry ∈ intent.entries settings, ∀ id, entry ≠ .bundleName id := by
  cases about : intent.channels? with
  | none =>
      cases intent with
      | allocate useBundle endpoint initiator contents =>
          cases contents with
          | nil => exact absurd rfl asks
          | cons content rest =>
              refine ⟨_, List.mem_append_left _ List.mem_cons_self, fun id => ?_⟩
              unfold allocation
              cases content.media <;> exact Entry.noConfusion
      | _ => cases about
  | some channels =>
      obtain ⟨entry, asked⟩ := List.exists_mem_of_ne_nil _ asks
      refine ⟨entry, asked, ?_⟩
      rintro id rfl
      exact bundleName_notMem_entries about id asked

end Intent

/-- What an intent puts into a draft of its own. -/
def Settings.contribution (settings : Settings) (intent : Intent) : Conference :=
  (Draft.add { settings } intent).1.conference

theorem entriesAt_contribution (settings : Settings) (intent : Intent) (slot : Slot) :
    (settings.contribution intent).entriesAt slot = inSlot slot (intent.entries settings) := by
  have bare : (({} : Conference).contents.map (·.media)).Nodup := List.nodup_nil
  rw [Settings.contribution, Draft.add_eq_gather]
  exact Conference.entriesAt_foldl_place slot bare (intent.entries settings)

namespace Draft

def addAll (draft : Draft) (intents : List Intent) : Draft :=
  intents.foldl (fun draft intent => (draft.add intent).1) draft

/-- What the intents are told one after the other: whether they asked for anything. -/
def answers (draft : Draft) : List Intent → List Bool
  | [] => []
  | intent :: rest => (draft.add intent).2 :: answers (draft.add intent).1 rest

/-- What becomes of a draft, and what an intent that is added to it is told. -/
inductive Answered (draft : Draft) : Draft × Bool → Prop where
  | passedOver : Answered draft (draft, false)
  | takenUp {after : Draft} (settings : after.settings = draft.settings)
      (noted : after.hasContent = true) (grows : draft.conference.Grows after.conference) :
      Answered draft (after, true)

/-- The flag of a draft says what the intents were told, and whether they left anything. -/
structure Agrees (draft : Draft) (answers : List Bool) : Prop where
  told : draft.hasContent = true ↔ true ∈ answers
  left : draft.hasContent = true ↔ draft.conference.isEmpty = false

/-- A conference that intents have gathered in a draft. -/
structure Gathers (draft : Draft) (intents : List Intent) (conference : Conference) : Prop where
  id : conference.id = draft.conference.id
  name : conference.name = draft.conference.name
  media : (conference.contents.map (·.media)).Nodup
  filled : ∀ content ∈ conference.contents, content.isEmpty = false
  entriesAt : ∀ slot, conference.entriesAt slot =
    intents.flatMap fun intent => (draft.settings.contribution intent).entriesAt slot

/-- What a draft comes to once intents have been added to it. -/
inductive Builds (draft : Draft) (intents : List Intent) (bridge : BridgeAddress)
    (seq : UInt64) : Option Request → Prop where
  | nothing (idle : true ∉ draft.answers intents) : Builds draft intents bridge seq none
  | request {conference : Conference} (asked : true ∈ draft.answers intents)
      (gathers : draft.Gathers intents conference) :
      Builds draft intents bridge seq (some { bridge, seq, conference })

section Adding

theorem accumulates_gather : Accumulates fun draft entries => (gather draft entries).1 where
  nil draft := by simp [gather, placeAll]
  append draft entries more := by
    simp only [gather, accumulates_placeAll.append, Bool.or_assoc]
    cases entries <;> simp [placeAll]

variable (draft : Draft) (intents : List Intent)

/-- To add intents is to gather all that they ask for, one after the other. -/
theorem addAll_eq_gather :
    draft.addAll intents = (draft.gather (intents.flatMap (·.entries draft.settings))).1 := by
  induction intents generalizing draft with
  | nil => exact (accumulates_gather.nil draft).symm
  | cons first rest ih =>
      rw [List.flatMap_cons]
      refine Eq.trans ?_ (accumulates_gather.append draft _ _).symm
      rw [← add_eq_gather]
      refine (ih (draft.add first).1).trans ?_
      rw [add_eq_gather]
      rfl

theorem conference_addAll :
    (draft.addAll intents).conference =
      (intents.flatMap (·.entries draft.settings)).foldl Conference.place draft.conference := by
  rw [addAll_eq_gather]
  rfl

theorem answers_eq_map :
    draft.answers intents = intents.map fun intent => !(intent.entries draft.settings).isEmpty := by
  induction intents generalizing draft with
  | nil => rfl
  | cons first rest ih =>
      rw [answers, add_eq_gather]
      exact congrArg (_ :: ·) (ih _)

theorem mem_answers_iff :
    true ∈ draft.answers intents ↔ intents.flatMap (·.entries draft.settings) ≠ [] := by
  simp [answers_eq_map]

variable {draft}

theorem nodup_media_addAll (distinct : (draft.conference.contents.map (·.media)).Nodup) :
    ((draft.addAll intents).conference.contents.map (·.media)).Nodup := by
  rw [conference_addAll]
  exact Conference.nodup_media_foldl_place distinct _

theorem answered_add (distinct : (draft.conference.contents.map (·.media)).Nodup)
    (intent : Intent) : Answered draft (draft.add intent) := by
  rw [add_eq_gather]
  by_cases asks : intent.entries draft.settings = []
  · have idle : draft.gather [] = (draft, false) := by simp [gather, placeAll]
    rw [asks, idle]
    exact .passedOver
  · have told : (draft.gather (intent.entries draft.settings)).2 = true := by
      simpa [gather] using asks
    obtain ⟨entry, asked, made⟩ := Intent.exists_made asks
    have called := called_foldl_place (intent.entries draft.settings) draft.conference
    rw [← Prod.eta (draft.gather _), told]
    refine .takenUp rfl (Bool.or_eq_true_iff.mpr (.inr told)) ⟨called.1, called.2, fun slot => ?_,
      ?_, ?_⟩
    · exact ⟨_, (Conference.entriesAt_foldl_place slot distinct _).symm⟩
    · exact Conference.bundles_prefix_foldl_place _ draft.conference
    · exact Conference.size_lt_foldl_place asked made draft.conference

theorem hasContent_addAll_iff (unused : draft.hasContent = false) :
    (draft.addAll intents).hasContent = true ↔
      intents.flatMap (·.entries draft.settings) ≠ [] := by
  simp [addAll_eq_gather, gather, unused]

theorem agrees_addAll (unused : draft.hasContent = false)
    (empty : draft.conference.isEmpty = true) :
    Agrees (draft.addAll intents) (draft.answers intents) := by
  have noted := hasContent_addAll_iff intents unused
  refine ⟨noted.trans (mem_answers_iff draft intents).symm, noted.trans ?_⟩
  rw [conference_addAll, ← Bool.not_eq_true, Conference.isEmpty_foldl_place empty]

theorem gathers_addAll (vacant : draft.conference.contents = []) :
    draft.Gathers intents (draft.addAll intents).conference := by
  have distinct : (draft.conference.contents.map (·.media)).Nodup := by simp [vacant]
  have called := called_foldl_place (intents.flatMap (·.entries draft.settings)) draft.conference
  rw [conference_addAll]
  refine ⟨called.1, called.2, Conference.nodup_media_foldl_place distinct _, ?_, fun slot => ?_⟩
  · exact Conference.filled_foldl_place _ (by simp [vacant])
  · have nothing : draft.conference.entriesAt slot = [] := by
      rw [Conference.entriesAt, Conference.entries, vacant, entriesOf_nil, inSlot_nil]
    rw [Conference.entriesAt_foldl_place slot distinct, nothing, List.nil_append]
    simp only [entriesAt_contribution, inSlot, List.filter_flatMap]

theorem builds_addAll (unused : draft.hasContent = false)
    (vacant : draft.conference.contents = []) (bridge : BridgeAddress) (seq : UInt64) :
    Builds draft intents bridge seq ((draft.addAll intents).request? bridge seq) := by
  have gathers := gathers_addAll intents vacant
  have noted := (hasContent_addAll_iff intents unused).trans (mem_answers_iff draft intents).symm
  rw [request?_of_filled gathers.filled]
  by_cases asked : true ∈ draft.answers intents
  · rw [if_pos (noted.mpr asked)]
    exact .request asked gathers
  · rw [if_neg (mt noted.mp asked)]
    exact .nothing asked

end Adding

/-- An intent is told that it asked for something just if the draft grows by it; the flag of
the draft says whether any was told so, and whether there is anything to send.  A request is
made just if some intent was told so, and it gathers what the intents put into it. -/
theorem requests_gather_intents (settings : Settings) (id : Option ConferenceId)
    (name : Option String) (intents : List Intent) (bridge : BridgeAddress) (seq : UInt64) :
    let start := about settings id name
    let draft := start.addAll intents
    (∀ intent, draft.Answered (draft.add intent)) ∧
      draft.Agrees (start.answers intents) ∧
      start.Builds intents bridge seq (draft.request? bridge seq) := by
  intro start draft
  have distinct : (draft.conference.contents.map (·.media)).Nodup :=
    nodup_media_addAll intents List.nodup_nil
  exact ⟨answered_add distinct, agrees_addAll intents rfl rfl,
    builds_addAll intents rfl rfl bridge seq⟩

end Draft

end ConferenceFocus.Colibri
