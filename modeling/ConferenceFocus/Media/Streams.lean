import ConferenceFocus.Media.Content
import ConferenceFocus.Media.MediaSet

/-!
# Source sets, group sets and streams

Sources are told apart by their SSRC, groups by their value.  A `Streams`
value joins a source set with a group set: it is what a participant sends,
what waits to be signaled to a participant, and what an update carries.
-/

namespace ConferenceFocus

instance : Keyed Source Ssrc := ⟨Source.ssrc⟩

instance : Keyed SourceGroup SourceGroup := ⟨id⟩

abbrev SourceSet := MediaSet Source

abbrev GroupSet := MediaSet SourceGroup

namespace SourceSet

def ofContents (contents : List MediaContent) : SourceSet :=
  MediaSet.ofList (contents.flatMap fun content => content.sources.map (content.media, ·))

def withOwner (sources : SourceSet) (owner : String) : SourceSet :=
  sources.map (·.withOwner owner)

end SourceSet

namespace GroupSet

def ofContents (contents : List MediaContent) : GroupSet :=
  MediaSet.ofList (contents.flatMap fun content => content.groups.map (content.media, ·))

/-- The groups that name an SSRC the sources of the same medium lack. -/
def uncoveredBy (groups : GroupSet) (sources : SourceSet) : GroupSet :=
  groups.filter fun media group => group.ssrcs.any fun ssrc => !sources.contains media ssrc

end GroupSet

/-- Sources together with the groups over them. -/
structure Streams where
  sources : SourceSet := ∅
  groups : GroupSet := ∅
  deriving DecidableEq, Repr

namespace Streams

instance : EmptyCollection Streams := ⟨⟨∅, ∅⟩⟩

instance : Inhabited Streams := ⟨∅⟩

def ofContents (contents : List MediaContent) : Streams :=
  { sources := SourceSet.ofContents contents, groups := GroupSet.ofContents contents }

def isEmpty (streams : Streams) : Bool :=
  streams.sources.isEmpty && streams.groups.isEmpty

def union (left right : Streams) : Streams :=
  { sources := left.sources.union right.sources, groups := left.groups.union right.groups }

def diff (left right : Streams) : Streams :=
  { sources := left.sources.diff right.sources, groups := left.groups.diff right.groups }

def inter (left right : Streams) : Streams :=
  { sources := left.sources.inter right.sources, groups := left.groups.inter right.groups }

def withOwner (streams : Streams) (owner : String) : Streams :=
  { streams with sources := SourceSet.withOwner streams.sources owner }

def orphans (streams : Streams) : GroupSet :=
  GroupSet.uncoveredBy streams.groups streams.sources

end Streams

end ConferenceFocus
