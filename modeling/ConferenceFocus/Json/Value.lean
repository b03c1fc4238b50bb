/-!
# JSON values

A JSON document as a value.  Two things are kept that a reader may want to
judge by itself: the text of a number as it was written, and whether the
escapes of a string make up a text at all, since an escape can name half of a
surrogate pair.
-/

namespace ConferenceFocus.Json

inductive Value where
  | null
  | bool (value : Bool)
  /-- A number as it was written. -/
  | number (numeral : String)
  /-- A string; `none` when half of a surrogate pair stands alone in it. -/
  | string (text : Option String)
  | array (items : List Value)
  /-- The members in the order of the document, repeated names included. -/
  | object (members : List (Option String × Value))
  deriving Inhabited

namespace Value

def text (text : String) : Value := .string (some text)

/-- An object from named members, of which those without a value are left out. -/
def record (members : List (String × Option Value)) : Value :=
  .object (members.filterMap fun (name, value) => value.map (some name, ·))

/-- The members whose names are texts. -/
def members : Value → List (String × Value)
  | .object members => members.filterMap fun (name, value) => name.map (·, value)
  | _ => []

/-- The value of a member; a member that holds `null` counts as missing. -/
def member? (value : Value) (name : String) : Option Value :=
  match value.members.lookup name with
  | some .null => none
  | found => found

end Value

end ConferenceFocus.Json
