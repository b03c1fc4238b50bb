/-!
# Identifiers

Names handed around between signaling, the focus and the bridges.  Each kind
has its own type, so an endpoint can never stand where a conference is meant.
All of them are ordered by their text, code point by code point.
-/

namespace ConferenceFocus

/-- A participant's name on the bridge, its nickname in the room. -/
structure EndpointId where
  text : String
  deriving DecidableEq, Repr

/-- A conference's name, assigned by the bridge that hosts it. -/
structure ConferenceId where
  text : String
  deriving DecidableEq, Repr

/-- The resolved address of a videobridge. -/
structure BridgeAddress where
  text : String
  deriving DecidableEq, Repr

/-- Stands for an established signaling session. -/
structure SessionHandle where
  text : String
  deriving DecidableEq, Repr

instance : ToString EndpointId := ⟨EndpointId.text⟩
instance : ToString ConferenceId := ⟨ConferenceId.text⟩
instance : ToString BridgeAddress := ⟨BridgeAddress.text⟩
instance : ToString SessionHandle := ⟨SessionHandle.text⟩

/-- The texts of a list in increasing order, each once. -/
def sortedDistinct (texts : List String) : List String :=
  (texts.mergeSort fun left right => decide (¬ right < left)).eraseDups

/-- The room's own name: what stands before the first `@` of its address, or
all of an address without one. -/
def roomName (address : String) : String :=
  String.ofList (address.toList.takeWhile (· ≠ '@'))

end ConferenceFocus
