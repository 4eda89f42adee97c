import FrameCode.LexError
import FrameCode.Numeral

/-!
# Machine words

Integers of the language are signed 64-bit words.  No operation wraps: a result that does not fit
is reported by its absence.

- `Word.ofInt?`: the word of an integer, if it fits
- `Word.add?`, `Word.sub?`, `Word.mul?`, `Word.div?`, `Word.rem?`: arithmetic
- `Word.floorDiv?`: division for the language, rounded down
- `Word.ofNumeral?`, `Word.parse`: integer literals
- `Word.render`: decimal text
-/

namespace FrameCode

/-- An integer of the language. -/
abbrev Word := Int64

namespace Word

/-- The word of an integer between `-2^63` and `2^63 - 1`. -/
def ofInt? (n : Int) : Option Word :=
  if -0x8000000000000000 ≤ n ∧ n < 0x8000000000000000 then some (Int64.ofInt n) else none

/-! ## Arithmetic -/

def add? (a b : Word) : Option Word :=
  ofInt? (a.toInt + b.toInt)

def sub? (a b : Word) : Option Word :=
  ofInt? (a.toInt - b.toInt)

def mul? (a b : Word) : Option Word :=
  ofInt? (a.toInt * b.toInt)

/-- The quotient rounded toward zero; there is none for a zero divisor. -/
def div? (a b : Word) : Option Word :=
  if b = 0 then none else ofInt? (a.toInt.tdiv b.toInt)

/-- The remainder of the quotient rounded toward zero; there is none without a quotient. -/
def rem? (a b : Word) : Option Word := do
  let _ ← div? a b
  ofInt? (a.toInt.tmod b.toInt)

/-- The quotient rounded toward negative infinity; there is none for a zero divisor.  It is the
quotient rounded toward zero, or one less if there is a remainder and the signs differ. -/
def floorDiv? (a b : Word) : Option Word := do
  let quotient ← div? a b
  let remainder ← rem? a b
  if remainder ≠ 0 ∧ ¬ (a < 0 ↔ b < 0) then sub? quotient 1 else some quotient

/-! ## Literals -/

/-- Appends a digit to a number that is being read.  A negative number grows away from zero like any
other, so that the least word can be read. -/
def appendDigit? (negative : Bool) (n : Word) (digit : Char) : Option Word := do
  let shifted ← mul? n 10
  let unit := Int64.ofNat (digit.toNat - 48)
  if negative then sub? shifted unit else add? shifted unit

/-- The word of a numeral, read digit by digit; there is none if it does not fit on the way. -/
def ofNumeral? (n : Numeral) : Option Word :=
  n.digits.foldlM (appendDigit? n.negative) 0

/-- Reads an integer literal; a numeral outside the range of words is an overflow. -/
def parse (text : String) : Except LexError Word :=
  match Numeral.parse? text with
  | none => .error (.malformed .int text)
  | some numeral =>
    match ofNumeral? numeral with
    | none => .error (.overflow text)
    | some n => .ok n

/-- The decimal text of a word. -/
def render (n : Word) : String :=
  (Numeral.ofInt n.toInt).render

end Word

end FrameCode
