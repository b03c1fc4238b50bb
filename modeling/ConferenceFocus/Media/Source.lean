/-!
# Media sources and groups of them

A source is one media stream with its signaling metadata.  A group ties
sources of one medium together, for instance the layers of a simulcast.
-/

namespace ConferenceFocus

structure Ssrc where
  number : Int
  deriving DecidableEq, Repr

namespace Ssrc

/-- Reserved: tells a bridge to drop every source of a channel. -/
def removeAll : Ssrc := ⟨-1⟩

instance : ToString Ssrc := ⟨fun ssrc => toString ssrc.number⟩

end Ssrc

inductive VideoType where
  | camera
  | screen
  deriving DecidableEq, Repr

namespace VideoType

def name : VideoType → String
  | camera => "camera"
  | screen => "screen"

end VideoType

structure Source where
  ssrc : Ssrc
  /-- The address of the participant that owns the source. -/
  owner : Option String := none
  videoType : Option VideoType := none
  /-- Free-form name and value pairs, such as a cname. -/
  parameters : List (String × String) := []
  deriving DecidableEq, Repr

namespace Source

/-- The marker source that stands for no sources at all. -/
def removeAll : Source := { ssrc := Ssrc.removeAll }

def isRemoveAll (source : Source) : Bool :=
  source.ssrc == Ssrc.removeAll

def withOwner (source : Source) (owner : String) : Source :=
  { source with owner := some owner }

@[simp] theorem ssrc_withOwner (source : Source) (owner : String) :
    (source.withOwner owner).ssrc = source.ssrc := rfl

@[simp] theorem withOwner_withOwner (source : Source) (first second : String) :
    (source.withOwner first).withOwner second = source.withOwner second := rfl

end Source

inductive GroupSemantics where
  /-- Simulcast layers, lowest quality first. -/
  | simulcast
  /-- Flow identification: a stream and its retransmission. -/
  | flowIdentification
  deriving DecidableEq, Repr

namespace GroupSemantics

def name : GroupSemantics → String
  | simulcast => "SIM"
  | flowIdentification => "FID"

end GroupSemantics

structure SourceGroup where
  semantics : GroupSemantics
  ssrcs : List Ssrc
  deriving DecidableEq, Repr

namespace SourceGroup

/-- The marker group that turns simulcast layers off. -/
def emptySimulcast : SourceGroup := { semantics := .simulcast, ssrcs := [] }

def isEmpty (group : SourceGroup) : Bool :=
  group.ssrcs.isEmpty

end SourceGroup

end ConferenceFocus
