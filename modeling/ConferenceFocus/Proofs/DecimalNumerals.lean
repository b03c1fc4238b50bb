import ConferenceFocus.Settings.Numeral

/-!
# What numerals denote

Reading a numeral below a limit finds the number that the text denotes, if that is below the
limit, and otherwise nothing.  A sign and zeros in front leave the number as it is.
-/

namespace ConferenceFocus.Settings

/-- Decimal digits, at least one, that denote the number. -/
def DigitsOf (number : Nat) (digits : List Char) : Prop :=
  digits ≠ [] ∧ (∀ c ∈ digits, c.isDigit) ∧ Nat.ofDigitChars 10 digits 0 = number

/-- The text consists of digits of the number, or of a plus sign and such digits. -/
def Denotes (text : String) (number : Nat) : Prop :=
  ∃ digits, (text.toList = digits ∨ text.toList = '+' :: digits) ∧ DigitsOf number digits

theorem digits?_eq_some_iff {value number : Nat} {digits : List Char} :
    digits? value digits = some number ↔
      (∀ c ∈ digits, c.isDigit) ∧ Nat.ofDigitChars 10 digits value = number := by
  induction digits generalizing value with
  | nil => simp [digits?]
  | cons c rest ih =>
      by_cases digit : c.isDigit
      · simp [digits?, digit?, digit, ih, Nat.ofDigitChars_cons]
      · simp [digits?, digit?, digit]

theorem unsigned?_eq_some_iff {number : Nat} {digits : List Char} :
    unsigned? digits = some number ↔ DigitsOf number digits := by
  cases digits with
  | nil => simp [unsigned?, DigitsOf]
  | cons c rest =>
      have read : unsigned? (c :: rest) = digits? 0 (c :: rest) := rfl
      rw [read, digits?_eq_some_iff, DigitsOf]
      exact ⟨fun holds => ⟨List.cons_ne_nil c rest, holds⟩, fun holds => holds.2⟩

theorem not_digitsOf_plus (number : Nat) (digits : List Char) :
    ¬ DigitsOf number ('+' :: digits) :=
  fun holds => absurd (holds.2.1 '+' List.mem_cons_self) (by decide)

theorem denotes_iff_of_signed {text : String} {number : Nat} {digits : List Char}
    (signed : text.toList = '+' :: digits) : Denotes text number ↔ DigitsOf number digits := by
  constructor
  · rintro ⟨written, rfl | behind, holds⟩
    · rw [signed] at holds
      exact absurd holds (not_digitsOf_plus number digits)
    · rw [signed] at behind
      rwa [(List.cons.inj behind).2]
  · intro holds
    exact ⟨digits, .inr signed, holds⟩

theorem denotes_iff_of_unsigned {text : String} {number : Nat}
    (unsigned : ∀ digits, text.toList ≠ '+' :: digits) :
    Denotes text number ↔ DigitsOf number text.toList := by
  constructor
  · rintro ⟨written, rfl | behind, holds⟩
    · exact holds
    · exact absurd behind (unsigned written)
  · intro holds
    exact ⟨text.toList, .inl rfl, holds⟩

theorem number?_eq_some_iff {limit number : Nat} {text : String} :
    number? limit text = some number ↔ Denotes text number ∧ number < limit := by
  rw [number?, Option.filter_eq_some_iff, decide_eq_true_iff, and_congr_left_iff]
  intro below
  split
  · next digits signed => rw [unsigned?_eq_some_iff, denotes_iff_of_signed signed]
  · next unsigned => rw [unsigned?_eq_some_iff, denotes_iff_of_unsigned unsigned]

theorem Denotes.unique {text : String} {number other : Nat} (left : Denotes text number)
    (right : Denotes text other) : number = other := by
  have first : number? (max number other + 1) text = some number :=
    number?_eq_some_iff.mpr ⟨left, by omega⟩
  have second : number? (max number other + 1) text = some other :=
    number?_eq_some_iff.mpr ⟨right, by omega⟩
  exact Option.some.inj (first.symm.trans second)

/-- A number written in decimal, with zeros in front, and with a plus sign or without one. -/
def decimal (signed : Bool) (zeros number : Nat) : String :=
  (if signed then "+" else "") ++ String.ofList (List.replicate zeros '0') ++ toString number

theorem denotes_decimal (signed : Bool) (zeros number : Nat) :
    Denotes (decimal signed zeros number) number := by
  refine ⟨List.replicate zeros '0' ++ Nat.toDigits 10 number, ?_, ?_, ?_, ?_⟩
  · cases signed with
    | false => exact .inl (by simp [decimal])
    | true => exact .inr (by simp [decimal])
  · simp [Nat.toDigits_ne_nil]
  · intro c mem
    rcases List.mem_append.mp mem with zero | digit
    · rw [(List.mem_replicate.mp zero).2]
      decide
    · exact Nat.isDigit_of_mem_toDigits (by decide) (by decide) digit
  · simp [Nat.ofDigitChars_append]

theorem denotes_decimal_iff {signed : Bool} {zeros number other : Nat} :
    Denotes (decimal signed zeros number) other ↔ other = number :=
  ⟨fun denotes => denotes.unique (denotes_decimal signed zeros number),
    fun same => same ▸ denotes_decimal signed zeros number⟩

end ConferenceFocus.Settings
