import ConferenceFocus.Json.StringLiteral
import ConferenceFocus.Json.Value

/-!
# Reading JSON documents

A strict reader: blanks between tokens are allowed and nothing else is added
to the grammar.  Every value uses up at least one character and every list of
items or members one more, so twice the length of a document bounds the depth
of the calls, and `document?` never runs short.
-/

namespace ConferenceFocus.Json

def isBlank (c : Char) : Bool :=
  c == ' ' || c == '\t' || c == '\n' || c == '\r'

def skipBlanks (text : List Char) : List Char :=
  text.dropWhile isBlank

section Numbers

def digitRun? (text : List Char) : Option (List Char × List Char) :=
  match text.takeWhile Char.isDigit with
  | [] => none
  | digits => some (digits, text.dropWhile Char.isDigit)

/-- The whole part of a number: a zero, or digits that start with another one. -/
def wholePart? : List Char → Option (List Char × List Char)
  | '0' :: rest => some (['0'], rest)
  | text => digitRun? text

def fraction? : List Char → Option (List Char × List Char)
  | '.' :: rest => (digitRun? rest).map fun (digits, rest) => ('.' :: digits, rest)
  | text => some ([], text)

def exponent? : List Char → Option (List Char × List Char)
  | [] => some ([], [])
  | c :: rest =>
      if c = 'e' ∨ c = 'E' then
        match rest with
        | '+' :: rest => (digitRun? rest).map fun (digits, rest) => (c :: '+' :: digits, rest)
        | '-' :: rest => (digitRun? rest).map fun (digits, rest) => (c :: '-' :: digits, rest)
        | rest => (digitRun? rest).map fun (digits, rest) => (c :: digits, rest)
      else some ([], c :: rest)

def unsignedNumber? (text : List Char) : Option (List Char × List Char) := do
  let (whole, rest) ← wholePart? text
  let (fraction, rest) ← fraction? rest
  let (exponent, rest) ← exponent? rest
  return (whole ++ fraction ++ exponent, rest)

def number? : List Char → Option (List Char × List Char)
  | '-' :: rest => (unsignedNumber? rest).map fun (number, rest) => ('-' :: number, rest)
  | text => unsignedNumber? text

end Numbers

/-- A string value, read from behind its opening quote. -/
def string? (text : List Char) : Option (Option String × List Char) :=
  (pieces? text).map fun (pieces, rest) => ((join pieces).map String.ofList, rest)

mutual

/-- One value, with what follows it. -/
def value? : Nat → List Char → Option (Value × List Char)
  | 0, _ => none
  | fuel + 1, text =>
      match skipBlanks text with
      | 'n' :: 'u' :: 'l' :: 'l' :: rest => some (.null, rest)
      | 't' :: 'r' :: 'u' :: 'e' :: rest => some (.bool true, rest)
      | 'f' :: 'a' :: 'l' :: 's' :: 'e' :: rest => some (.bool false, rest)
      | '"' :: rest => (string? rest).map fun (text, rest) => (.string text, rest)
      | '[' :: rest =>
          match skipBlanks rest with
          | ']' :: rest => some (.array [], rest)
          | rest => (items? fuel rest).map fun (items, rest) => (.array items, rest)
      | '{' :: rest =>
          match skipBlanks rest with
          | '}' :: rest => some (.object [], rest)
          | rest => (members? fuel rest).map fun (members, rest) => (.object members, rest)
      | text => (number? text).map fun (number, rest) => (.number (String.ofList number), rest)

/-- The items of an array that has some, up to its closing bracket. -/
def items? : Nat → List Char → Option (List Value × List Char)
  | 0, _ => none
  | fuel + 1, text => do
      let (item, rest) ← value? fuel text
      match skipBlanks rest with
      | ',' :: rest =>
          let (items, rest) ← items? fuel rest
          return (item :: items, rest)
      | ']' :: rest => return ([item], rest)
      | _ => none

/-- The members of an object that has some, up to its closing brace. -/
def members? : Nat → List Char → Option (List (Option String × Value) × List Char)
  | 0, _ => none
  | fuel + 1, text =>
      match skipBlanks text with
      | '"' :: rest => do
          let (name, rest) ← string? rest
          match skipBlanks rest with
          | ':' :: rest =>
              let (value, rest) ← value? fuel rest
              match skipBlanks rest with
              | ',' :: rest =>
                  let (members, rest) ← members? fuel rest
                  return ((name, value) :: members, rest)
              | '}' :: rest => return ([(name, value)], rest)
              | _ => none
          | _ => none
      | _ => none

end

/-- The value of a document, behind which only blanks may follow. -/
def document? (text : String) : Option Value :=
  match value? (2 * text.length + 2) text.toList with
  | some (value, rest) => if (skipBlanks rest).isEmpty then some value else none
  | none => none

end ConferenceFocus.Json
