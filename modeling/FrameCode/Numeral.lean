/-!
# Signed decimal numerals

A numeral is an optional sign followed by one or more decimal digits.  It keeps its digits as they
are written, so numerals of any length can be read, rendered and compared without arithmetic.

- `Numeral`: sign and digits
- `Numeral.parse?`: the grammar
- `Numeral.value`: the integer that a numeral denotes
- `Numeral.ofInt`: the numeral of an integer
-/

namespace FrameCode

/-- A sign and one or more decimal digits, most significant first. -/
structure Numeral where
  negative : Bool
  digits : List Char
  nonempty : digits ≠ []
  decimal : ∀ d ∈ digits, d.isDigit = true
  deriving DecidableEq

namespace Numeral

/-! ## Reading -/

/-- A numeral with a given sign, if the text is one or more digits. -/
def unsigned? (negative : Bool) (text : List Char) : Option Numeral :=
  if h : text.isEmpty = false ∧ text.all Char.isDigit = true then
    some
      { negative := negative
        digits := text
        nonempty := List.isEmpty_eq_false_iff.1 h.1
        decimal := List.all_eq_true.1 h.2 }
  else
    none

/-- The numeral that a list of characters spells. -/
def ofChars? : List Char → Option Numeral
  | '+' :: text => unsigned? false text
  | '-' :: text => unsigned? true text
  | text => unsigned? false text

/-- The numeral that a text spells: an optional sign, then digits and nothing else. -/
def parse? (text : String) : Option Numeral :=
  ofChars? text.toList

/-! ## Meaning -/

/-- An integer given by its sign and magnitude. -/
def signed (negative : Bool) (magnitude : Nat) : Int :=
  if negative then -(magnitude : Int) else magnitude

/-- The integer that a numeral denotes. -/
def value (n : Numeral) : Int :=
  signed n.negative (Nat.ofDigitChars 10 n.digits 0)

/-! ## Writing -/

/-- The numeral of an integer, with a minus sign if it is negative and without leading zeros. -/
def ofInt (n : Int) : Numeral where
  negative := decide (n < 0)
  digits := Nat.toDigits 10 n.natAbs
  nonempty := Nat.toDigits_ne_nil
  decimal := fun _ h => Nat.isDigit_of_mem_toDigits (by decide) (by decide) h

/-- Digits behind the sign of a negative number. -/
def spell (negative : Bool) (digits : List Char) : String :=
  .ofList (if negative then '-' :: digits else digits)

/-- A numeral as text; a plus sign is not written. -/
def render (n : Numeral) : String :=
  spell n.negative n.digits

end Numeral

end FrameCode
