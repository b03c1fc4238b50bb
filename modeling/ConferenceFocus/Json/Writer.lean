import ConferenceFocus.Json.Value

/-!
# Writing JSON documents

Documents are written without blanks.  Only what has to be is escaped: quotes,
backslashes and control characters.
-/

namespace ConferenceFocus.Json

def hexDigit (value : Nat) : Char := (Nat.digitChar value)

def escaped (c : Char) : List Char :=
  if c = '"' then ['\\', '"']
  else if c = '\\' then ['\\', '\\']
  else if c.toNat < 0x20 then
    ['\\', 'u', '0', '0', hexDigit (c.toNat / 16), hexDigit (c.toNat % 16)]
  else [c]

/-- A string literal.  A string without text is written as a lone half of a
surrogate pair, which reads back as one. -/
def literal : Option String → String
  | some text => String.ofList ('"' :: text.toList.flatMap escaped ++ ['"'])
  | none => "\"\\ud800\""

namespace Value

mutual

def render : Value → String
  | .null => "null"
  | .bool value => if value then "true" else "false"
  | .number numeral => numeral
  | .string text => literal text
  | .array items => "[" ++ renderItems items ++ "]"
  | .object members => "\x7b" ++ renderMembers members ++ "\x7d"

def renderItems : List Value → String
  | [] => ""
  | [item] => render item
  | item :: rest => render item ++ "," ++ renderItems rest

def renderMembers : List (Option String × Value) → String
  | [] => ""
  | [(name, value)] => literal name ++ ":" ++ render value
  | (name, value) :: rest => literal name ++ ":" ++ render value ++ "," ++ renderMembers rest

end

end Value

end ConferenceFocus.Json
