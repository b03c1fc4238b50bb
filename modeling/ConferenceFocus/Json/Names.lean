import ConferenceFocus.Identity
import ConferenceFocus.Json.Form
import ConferenceFocus.Media.MediaType
import ConferenceFocus.Settings.Configuration

/-!
# JSON forms of names and settings

Identifiers are written as strings and media types as their names.  Logging
settings are written as an object.
-/

namespace ConferenceFocus.Json

instance : Write EndpointId := writeAs (·.text)
instance : Write ConferenceId := writeAs (·.text)
instance : Write BridgeAddress := writeAs (·.text)
instance : Write SessionHandle := writeAs (·.text)
instance : Write MediaType := writeAs (·.name)

instance : Read EndpointId := readAs (.ok ⟨·⟩)
instance : Read ConferenceId := readAs (.ok ⟨·⟩)
instance : Read BridgeAddress := readAs (.ok ⟨·⟩)
instance : Read SessionHandle := readAs (.ok ⟨·⟩)

def mediaNamed (name : String) : Except String MediaType :=
  match MediaType.ofName? name with
  | some media => .ok media
  | none => .error (MediaType.unknownName name)

/-- A media type may also be given as an object with its name as the one
member, which holds nothing. -/
instance : Read MediaType where
  read
    | .object [(some name, .null)] => mediaNamed name
    | value => read value >>= mediaNamed
  absent := mediaNamed ""

instance : Write Settings.Logging := writeAs fun settings =>
  Value.record [("log_level", form? settings.level), ("json_logs", form? settings.json)]

/-- Both fields of logging settings have to be there, each once; other fields
are passed over.  The two may also be given as an array. -/
instance : Read Settings.Logging where
  read
    | .array [.string (some level), .bool json] => .ok { level, json }
    | .object members =>
        if members.any (·.1.isNone) then expected "a name"
        else
          match members.filter (·.1 = some "log_level"),
            members.filter (·.1 = some "json_logs") with
          | [(_, .string (some level))], [(_, .bool json)] => .ok { level, json }
          | _, _ => expected "each field once"
    | _ => expected "an object"
  absent := expected "an object"

end ConferenceFocus.Json
