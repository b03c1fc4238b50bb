/-!
# Media types

The closed set of media a conference carries.  The order of `MediaType.all` is
the order in which requests lay out their contents and in which per-media
tables are listed.
-/

namespace ConferenceFocus

inductive MediaType where
  | audio
  | video
  | data
  deriving DecidableEq, Repr

namespace MediaType

def all : List MediaType := [.audio, .video, .data]

def rank : MediaType → Nat
  | audio => 0
  | video => 1
  | data => 2

instance : LT MediaType where
  lt left right := left.rank < right.rank

instance (left right : MediaType) : Decidable (left < right) :=
  inferInstanceAs (Decidable (left.rank < right.rank))

def name : MediaType → String
  | audio => "audio"
  | video => "video"
  | data => "data"

/-- Whether the medium travels over RTP, and therefore has sources. -/
def isRtp : MediaType → Bool
  | audio | video => true
  | data => false

/-- Names are read back exactly: case and surrounding blanks count. -/
def ofName? (text : String) : Option MediaType :=
  all.find? (·.name == text)

/-- What is said of a text that names no media type. -/
def unknownName (text : String) : String :=
  "Parse error: unknown media type: " ++ text

@[simp] theorem mem_all (media : MediaType) : media ∈ all := by
  cases media <;> decide

instance {holds : MediaType → Prop} [DecidablePred holds] : Decidable (∀ media, holds media) :=
  decidable_of_iff (∀ media ∈ all, holds media) (by simp)

theorem name_injective {left right : MediaType} (same : left.name = right.name) :
    left = right := by
  cases left <;> cases right <;> first | rfl | exact absurd same (by decide)

theorem ofName?_name (media : MediaType) : ofName? media.name = some media := by
  cases media <;> decide

theorem ofName?_eq_some_iff {text : String} {media : MediaType} :
    ofName? text = some media ↔ text = media.name := by
  constructor
  · intro found
    have named := List.find?_some found
    exact (beq_iff_eq.mp named).symm
  · rintro rfl
    exact ofName?_name media

end MediaType

end ConferenceFocus
