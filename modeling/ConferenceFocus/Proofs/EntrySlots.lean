import ConferenceFocus.Proofs.ConferenceShape
import ConferenceFocus.Proofs.RequestNaming

/-!
# The lists of a conference

A conference keeps its entries in lists, one of channels and one of connections
for each medium.  What is placed in a conference, and what is new in a reply, goes
to the end of its list; naming leaves every entry in its place.
-/

namespace ConferenceFocus.Colibri

/-- One of the lists that a conference is made of. -/
inductive Slot where
  | channels (media : MediaType)
  | connections (media : MediaType)
  deriving DecidableEq, Repr

def Slot.media : Slot → MediaType
  | .channels media | .connections media => media

def Entry.slot? : Entry → Option Slot
  | .channel media _ => some (.channels media)
  | .connection media _ => some (.connections media)
  | .bundle _ | .bundleName _ => none

theorem Entry.media?_of_slot? {entry : Entry} {slot : Slot} (stands : entry.slot? = some slot) :
    entry.media? = some slot.media := by
  cases entry with
  | channel | connection =>
      obtain rfl := Option.some.inj stands
      rfl
  | bundle | bundleName => cases stands

/-- The entries that stand in one slot, in order. -/
def inSlot (slot : Slot) (entries : List Entry) : List Entry :=
  entries.filter (·.slot? = some slot)

def Conference.entriesAt (conference : Conference) (slot : Slot) : List Entry :=
  inSlot slot conference.entries

section Slots

variable {slot : Slot} {entry : Entry} {entries left right : List Entry}

theorem mem_inSlot : entry ∈ inSlot slot entries ↔ entry ∈ entries ∧ entry.slot? = some slot := by
  simp only [inSlot, List.mem_filter, decide_eq_true_eq]

@[simp] theorem inSlot_nil (slot : Slot) : inSlot slot [] = [] := rfl

@[simp] theorem inSlot_append (slot : Slot) (left right : List Entry) :
    inSlot slot (left ++ right) = inSlot slot left ++ inSlot slot right :=
  List.filter_append left right

theorem inSlot_eq_nil (elsewhere : ∀ entry ∈ entries, entry.slot? ≠ some slot) :
    inSlot slot entries = [] := by
  apply List.filter_eq_nil_iff.mpr
  intro entry within stands
  exact elsewhere entry within (of_decide_eq_true stands)

theorem inSlot_eq_nil_of_media {media : MediaType} (different : slot.media ≠ media)
    (within : ∀ entry ∈ entries, entry.media? = some media) : inSlot slot entries = [] := by
  apply inSlot_eq_nil
  intro entry listed stands
  have sameMedia := (Entry.media?_of_slot? stands).symm.trans (within entry listed)
  exact different (Option.some.inj sameMedia)

section Listing

variable {α : Type} {items : List α} {media other : MediaType} {channel : α → Channel}
  {connection : α → SctpConnection}

@[simp] theorem inSlot_channels_channel :
    inSlot (.channels media) (items.map fun item => .channel media (channel item)) =
      items.map fun item => .channel media (channel item) :=
  List.filter_eq_self.mpr (by simp [Entry.slot?])

@[simp] theorem inSlot_channels_connection :
    inSlot (.channels media) (items.map fun item => .connection other (connection item)) = [] :=
  inSlot_eq_nil (by simp [Entry.slot?])

@[simp] theorem inSlot_connections_channel :
    inSlot (.connections media) (items.map fun item => .channel other (channel item)) = [] :=
  inSlot_eq_nil (by simp [Entry.slot?])

@[simp] theorem inSlot_connections_connection :
    inSlot (.connections media) (items.map fun item => .connection media (connection item)) =
      items.map fun item => .connection media (connection item) :=
  List.filter_eq_self.mpr (by simp [Entry.slot?])

end Listing

/-- Every entry of a conference stands in a slot. -/
theorem exists_slot_of_mem {contents : List Content} (listed : entry ∈ entriesOf contents) :
    ∃ slot, entry.slot? = some slot := by
  obtain ⟨content, _, within⟩ := mem_entriesOf.mp listed
  rcases Content.mem_entries.mp within with ⟨channel, _, rfl⟩ | ⟨connection, _, rfl⟩
  · exact ⟨.channels content.media, rfl⟩
  · exact ⟨.connections content.media, rfl⟩

end Slots

/-- Puts the lists of one content behind those of another. -/
def Content.join (content more : Content) : Content :=
  { content with
    channels := content.channels ++ more.channels,
    connections := content.connections ++ more.connections }

namespace Content

variable {content more reply : Content}

theorem inSlot_join (slot : Slot) (same : more.media = content.media) :
    inSlot slot (content.join more).entries =
      inSlot slot content.entries ++ inSlot slot more.entries := by
  simp only [entries, join, same, List.map_append, inSlot_append]
  cases slot with
  | channels media =>
      rw [inSlot_channels_connection, inSlot_channels_connection]
      simp only [List.append_nil]
  | connections media =>
      rw [inSlot_connections_channel, inSlot_connections_channel]
      simp only [List.nil_append]

theorem addChannel_eq_join (content : Content) (channel : Channel) :
    content.addChannel channel =
      content.join { media := content.media, channels := [channel] } := by
  simp only [addChannel, join, List.append_nil]

theorem addConnection_eq_join (content : Content) (connection : SctpConnection) :
    content.addConnection connection =
      content.join { media := content.media, connections := [connection] } := by
  simp only [addConnection, join, List.append_nil]

/-- A reply that names only what is new is taken in as it is. -/
theorem absorb_eq_join (distinct : (reply.entries.map Entry.name?).Nodup)
    (new : ∀ entry ∈ reply.entries, ∀ held ∈ content.entries, held.name? ≠ entry.name?) :
    content.absorb reply = content.join reply := by
  rw [entries, List.map_append, List.nodup_append, List.map_map, List.map_map] at distinct
  obtain ⟨channelsDistinct, connectionsDistinct, _⟩ := distinct
  have channels : Keyed.appendAll content.channels reply.channels =
      content.channels ++ reply.channels := by
    apply Keyed.appendAll_of_free channelsDistinct
    intro channel replied held present
    exact new (.channel reply.media channel) (mem_entries.mpr (.inl ⟨channel, replied, rfl⟩))
      (.channel content.media held) (mem_entries.mpr (.inl ⟨held, present, rfl⟩))
  have connections : Keyed.appendAll content.connections reply.connections =
      content.connections ++ reply.connections := by
    apply Keyed.appendAll_of_free connectionsDistinct
    intro connection replied held present
    exact new (.connection reply.media connection)
      (mem_entries.mpr (.inr ⟨connection, replied, rfl⟩))
      (.connection content.media held) (mem_entries.mpr (.inr ⟨held, present, rfl⟩))
  rw [absorb, join, channels, connections]

end Content

section Joining

variable {slot : Slot} {media : MediaType} {change : Content → Content} {added : Content}
  {contents : List Content}

/-- What a change puts behind the content of its medium stands at the end of each
slot, since no other content has that medium. -/
theorem inSlot_modifyContent (slot : Slot) (same : added.media = media)
    (distinct : (contents.map (·.media)).Nodup)
    (bare : change { media } = ({ media } : Content).join added)
    (joins : ∀ content ∈ contents, content.media = media → change content = content.join added) :
    inSlot slot (entriesOf (modifyContent media change contents)) =
      inSlot slot (entriesOf contents) ++ inSlot slot added.entries := by
  induction contents with
  | nil =>
      simp only [modifyContent, entriesOf_cons, entriesOf_nil, List.append_nil, bare]
      exact Content.inSlot_join slot same
  | cons content rest ih =>
      rw [List.map_cons, List.nodup_cons] at distinct
      obtain ⟨joinsFirst, joinsRest⟩ := List.forall_mem_cons.mp joins
      unfold modifyContent
      split
      · next here =>
          rw [joinsFirst here, entriesOf_cons, entriesOf_cons, inSlot_append, inSlot_append,
            Content.inSlot_join slot (same.trans here.symm), List.append_assoc, List.append_assoc]
          -- Either the rest has nothing in the slot, or what is added has not.
          by_cases sameMedia : slot.media = media
          · have elsewhere : inSlot slot (entriesOf rest) = [] := by
              apply inSlot_eq_nil
              intro entry listed stands
              obtain ⟨other, present, within⟩ := mem_entriesOf.mp listed
              have otherMedia : other.media = slot.media := Option.some.inj
                ((Content.media?_of_mem within).symm.trans (Entry.media?_of_slot? stands))
              apply distinct.1
              rw [here, ← sameMedia, ← otherMedia]
              exact List.mem_map_of_mem present
            rw [elsewhere, List.append_nil, List.nil_append]
          · have nothing : inSlot slot added.entries = [] :=
              inSlot_eq_nil_of_media sameMedia fun entry within =>
                same ▸ Content.media?_of_mem within
            rw [nothing, List.append_nil, List.nil_append]
      · rw [entriesOf_cons, entriesOf_cons, inSlot_append, inSlot_append, ih distinct.2 joinsRest,
          List.append_assoc]

end Joining

namespace Conference

section Placing

variable {conference : Conference}

theorem nodup_media_place (distinct : (conference.contents.map (·.media)).Nodup) (placed : Entry) :
    ((conference.place placed).contents.map (·.media)).Nodup := by
  cases placed with
  | channel | connection => exact nodup_media_modifyContent (fun _ => rfl) distinct
  | bundle | bundleName => exact distinct

theorem nodup_media_foldl_place (distinct : (conference.contents.map (·.media)).Nodup)
    (placed : List Entry) : ((placed.foldl place conference).contents.map (·.media)).Nodup := by
  induction placed generalizing conference with
  | nil => exact distinct
  | cons first rest ih => exact ih (nodup_media_place distinct first)

theorem entriesAt_place (slot : Slot) (distinct : (conference.contents.map (·.media)).Nodup)
    (placed : Entry) :
    (conference.place placed).entriesAt slot =
      conference.entriesAt slot ++ inSlot slot [placed] := by
  cases placed with
  | channel media channel =>
      let added : Content := { media, channels := [channel] }
      have same : added.media = media := rfl
      apply inSlot_modifyContent slot same distinct (Content.addChannel_eq_join _ channel)
      rintro content _ rfl
      exact content.addChannel_eq_join channel
  | connection media connection =>
      let added : Content := { media, connections := [connection] }
      have same : added.media = media := rfl
      apply inSlot_modifyContent slot same distinct (Content.addConnection_eq_join _ connection)
      rintro content _ rfl
      exact content.addConnection_eq_join connection
  | bundle | bundleName => exact (List.append_nil _).symm

theorem entriesAt_foldl_place (slot : Slot) (distinct : (conference.contents.map (·.media)).Nodup)
    (placed : List Entry) :
    (placed.foldl place conference).entriesAt slot =
      conference.entriesAt slot ++ inSlot slot placed := by
  induction placed generalizing conference with
  | nil => exact (List.append_nil _).symm
  | cons first rest ih =>
      rw [List.foldl_cons, ih (nodup_media_place distinct first), entriesAt_place slot distinct,
        List.append_assoc, ← inSlot_append, List.singleton_append]

end Placing

section Absorbing

/-- The contents of a reply that names only what is new are put behind what there
is, slot by slot. -/
theorem inSlot_absorb (slot : Slot) {replies contents : List Content}
    (distinct : (contents.map (·.media)).Nodup)
    (distinctNames : ((entriesOf replies).map Entry.name?).Nodup)
    (new : ∀ entry ∈ entriesOf replies, ∀ held ∈ entriesOf contents,
      held.name? ≠ entry.name?) :
    inSlot slot (entriesOf (replies.foldl
        (fun contents content => modifyContent content.media (·.absorb content) contents)
        contents)) =
      inSlot slot (entriesOf contents) ++ inSlot slot (entriesOf replies) := by
  induction replies generalizing contents with
  | nil => exact (List.append_nil _).symm
  | cons first rest ih =>
      rw [entriesOf_cons, List.map_append, List.nodup_append] at distinctNames
      obtain ⟨firstDistinct, restDistinct, apart⟩ := distinctNames
      obtain ⟨firstNew, restNew⟩ := List.forall_mem_append.mp new
      have joined (slot : Slot) :
          inSlot slot (entriesOf (modifyContent first.media (·.absorb first) contents)) =
            inSlot slot (entriesOf contents) ++ inSlot slot first.entries := by
        apply inSlot_modifyContent slot rfl distinct
        · apply Content.absorb_eq_join firstDistinct
          intro _ _ held impossible
          cases (show held ∈ ([] : List Entry) from impossible)
        · intro content present _
          apply Content.absorb_eq_join firstDistinct
          intro entry within held heldWithin
          exact firstNew entry within held (mem_entriesOf.mpr ⟨content, present, heldWithin⟩)
      have distinctGrown : ((modifyContent first.media (·.absorb first) contents).map
          (·.media)).Nodup :=
        nodup_media_modifyContent (fun _ => rfl) distinct
      rw [List.foldl_cons, ih distinctGrown restDistinct, joined slot, entriesOf_cons,
        inSlot_append, List.append_assoc]
      intro entry later held listed sameName
      obtain ⟨heldSlot, stands⟩ := exists_slot_of_mem listed
      have inGrown := mem_inSlot.mpr ⟨listed, stands⟩
      rw [joined heldSlot, List.mem_append] at inGrown
      rcases inGrown with earlier | added
      · exact restNew entry later held (mem_inSlot.mp earlier).1 sameName
      · exact apart _ (List.mem_map_of_mem (mem_inSlot.mp added).1) _
          (List.mem_map_of_mem later) sameName

theorem entriesAt_absorb (slot : Slot) {state reply : Conference} {id : ConferenceId}
    (distinct : (state.contents.map (·.media)).Nodup)
    (distinctNames : (reply.entries.map Entry.name?).Nodup)
    (new : ∀ entry ∈ reply.entries, ∀ held ∈ state.entries, held.name? ≠ entry.name?) :
    (state.absorb reply id).entriesAt slot = state.entriesAt slot ++ reply.entriesAt slot :=
  inSlot_absorb slot distinct distinctNames new

end Absorbing

end Conference

end ConferenceFocus.Colibri

namespace ConferenceFocus.Simulation

open Colibri

theorem slot?_nameEntry (name : String) (entry : Entry) :
    (nameEntry name entry).slot? = entry.slot? := by
  cases entry <;> rfl

/-- Each entry is named where it stands. -/
theorem forall₂_nameEntries (supply : Nat → String) (used : Nat) (entries : List Entry) :
    List.Forall₂ (fun asked named => ∃ name, named = nameEntry name asked) entries
      (nameEntries supply used entries).1 := by
  induction entries generalizing used with
  | nil => exact .nil
  | cons first rest ih => exact .cons ⟨supply used, rfl⟩ (ih _)

theorem forall₂_inSlot_nameEntries (supply : Nat → String) (slot : Slot) (used : Nat)
    (entries : List Entry) :
    List.Forall₂ (fun asked named => ∃ name, named = nameEntry name asked) (inSlot slot entries)
      (inSlot slot (nameEntries supply used entries).1) := by
  refine List.rel_filter ?_ (forall₂_nameEntries supply used entries)
  rintro asked _ ⟨name, rfl⟩
  simp only [slot?_nameEntry]

end ConferenceFocus.Simulation
