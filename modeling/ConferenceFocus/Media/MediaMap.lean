import ConferenceFocus.Media.MediaType

/-!
# Tables keyed by media type

A `MediaMap` holds at most one value per media type.  Two tables are equal
exactly when they answer every look-up alike, and a table is always listed in
the order of `MediaType.all`.
-/

namespace ConferenceFocus

structure MediaMap (α : Type) where
  audio : Option α := none
  video : Option α := none
  data : Option α := none
  deriving DecidableEq, Repr

namespace MediaMap

variable {α β : Type}

instance : EmptyCollection (MediaMap α) := ⟨⟨none, none, none⟩⟩

instance : Inhabited (MediaMap α) := ⟨∅⟩

def get? (table : MediaMap α) : MediaType → Option α
  | .audio => table.audio
  | .video => table.video
  | .data => table.data

def ofFn (lookup : MediaType → Option α) : MediaMap α :=
  { audio := lookup .audio, video := lookup .video, data := lookup .data }

def insert (table : MediaMap α) (media : MediaType) (value : α) : MediaMap α :=
  ofFn fun other => if other = media then some value else table.get? other

def filterMap (table : MediaMap α) (f : MediaType → α → Option β) : MediaMap β :=
  ofFn fun media => (table.get? media).bind (f media)

def toList (table : MediaMap α) : List (MediaType × α) :=
  MediaType.all.filterMap fun media => (table.get? media).map (media, ·)

@[simp] theorem get?_empty (media : MediaType) :
    (∅ : MediaMap α).get? media = none := by
  cases media <;> rfl

@[simp] theorem get?_ofFn (lookup : MediaType → Option α) (media : MediaType) :
    (ofFn lookup).get? media = lookup media := by
  cases media <;> rfl

@[simp] theorem get?_insert (table : MediaMap α) (media other : MediaType) (value : α) :
    (table.insert media value).get? other =
      if other = media then some value else table.get? other := by
  simp [insert]

@[simp] theorem get?_filterMap (table : MediaMap α) (f : MediaType → α → Option β)
    (media : MediaType) :
    (table.filterMap f).get? media = (table.get? media).bind (f media) := by
  simp [filterMap]

theorem ext_get? {left right : MediaMap α}
    (same : ∀ media, left.get? media = right.get? media) : left = right := by
  cases left
  cases right
  have audio := same .audio
  have video := same .video
  have data := same .data
  simp only [get?] at audio video data
  simp [audio, video, data]

theorem mem_toList {table : MediaMap α} {media : MediaType} {value : α} :
    (media, value) ∈ table.toList ↔ table.get? media = some value := by
  simp [toList]

end MediaMap

end ConferenceFocus
