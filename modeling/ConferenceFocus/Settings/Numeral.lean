/-!
# Numerals in configuration values

A whole number is written as decimal digits, at least one, with an optional
plus sign before them; leading zeros count for nothing.  A flag is written as
one of two words.
-/

namespace ConferenceFocus.Settings

def digit? (c : Char) : Option Nat :=
  if c.isDigit then some (c.toNat - '0'.toNat) else none

/-- The number that digits denote when they are read behind `value`. -/
def digits? (value : Nat) : List Char → Option Nat
  | [] => some value
  | c :: rest => (digit? c).bind fun digit => digits? (10 * value + digit) rest

def unsigned? : List Char → Option Nat
  | [] => none
  | digits => digits? 0 digits

/-- The number below `limit` that a text denotes. -/
def number? (limit : Nat) (text : String) : Option Nat :=
  let denoted := match text.toList with
    | '+' :: digits => unsigned? digits
    | digits => unsigned? digits
  denoted.filter (· < limit)

def flag? : String → Option Bool
  | "true" => some true
  | "false" => some false
  | _ => none

end ConferenceFocus.Settings
