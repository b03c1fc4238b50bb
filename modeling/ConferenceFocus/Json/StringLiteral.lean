/-!
# JSON string literals

Reading the inside of a string literal.  Escapes may name any UTF-16 code
unit; whether the units they name pair up is decided afterwards, by `join`.
-/

namespace ConferenceFocus.Json

/-- One character of a literal, or the code unit named by an escape. -/
inductive Piece where
  | char (c : Char)
  | codeUnit (number : Nat)
  deriving DecidableEq, Repr

def hexDigit? (c : Char) : Option Nat :=
  if '0' ≤ c ∧ c ≤ '9' then some (c.toNat - '0'.toNat)
  else if 'a' ≤ c ∧ c ≤ 'f' then some (c.toNat - 'a'.toNat + 10)
  else if 'A' ≤ c ∧ c ≤ 'F' then some (c.toNat - 'A'.toNat + 10)
  else none

def codeUnit? (first second third fourth : Char) : Option Nat := do
  let a ← hexDigit? first
  let b ← hexDigit? second
  let c ← hexDigit? third
  let d ← hexDigit? fourth
  return ((a * 16 + b) * 16 + c) * 16 + d

def shortEscape? : Char → Option Char
  | '"' => some '"'
  | '\\' => some '\\'
  | '/' => some '/'
  | 'b' => some '\x08'
  | 'f' => some '\x0c'
  | 'n' => some '\n'
  | 'r' => some '\r'
  | 't' => some '\t'
  | _ => none

/-- Reads on from behind the opening quote to the closing one.  Control
characters have to be escaped. -/
def pieces? : List Char → Option (List Piece × List Char)
  | [] => none
  | '"' :: rest => some ([], rest)
  | '\\' :: 'u' :: first :: second :: third :: fourth :: rest => do
      let number ← codeUnit? first second third fourth
      let (pieces, rest) ← pieces? rest
      return (.codeUnit number :: pieces, rest)
  | '\\' :: escape :: rest => do
      let c ← shortEscape? escape
      let (pieces, rest) ← pieces? rest
      return (.char c :: pieces, rest)
  | c :: rest => do
      if c.toNat < 0x20 then failure
      let (pieces, rest) ← pieces? rest
      return (.char c :: pieces, rest)

def isHighSurrogate (number : Nat) : Bool := 0xd800 ≤ number && number < 0xdc00

def isLowSurrogate (number : Nat) : Bool := 0xdc00 ≤ number && number < 0xe000

/-- The characters of a literal, if the halves of surrogate pairs in it stand
side by side, the high one first. -/
def join : List Piece → Option (List Char)
  | [] => some []
  | .char c :: rest => (join rest).map (c :: ·)
  | .codeUnit high :: .codeUnit low :: rest =>
      if isHighSurrogate high then
        if isLowSurrogate low then
          let c := Char.ofNat (0x10000 + (high - 0xd800) * 0x400 + (low - 0xdc00))
          (join rest).map (c :: ·)
        else none
      else if isLowSurrogate high then none
      else (join (.codeUnit low :: rest)).map (Char.ofNat high :: ·)
  | .codeUnit number :: rest =>
      if isHighSurrogate number || isLowSurrogate number then none
      else (join rest).map (Char.ofNat number :: ·)

end ConferenceFocus.Json
