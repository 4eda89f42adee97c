import FrameCode.LexError
import FrameCode.Numeral
import FrameCode.Word

/-!
# Orders of instructions

An instruction carries an integer that places it in the program.  Orders are unbounded, and they are
kept in canonical decimal form, so that equal orders are equal values and comparison looks at signs,
lengths and digits only.

- `Order`: a canonical signed numeral
- `Order.parse`: any signed numeral, brought to canonical form
- `Order.toInt`, `Order.toWord?`: the integer, and the word if it fits
- `Order.compare`: comparison of canonical forms
-/

namespace FrameCode

/-- A signed decimal without leading zeros; zero has no sign. -/
structure Order extends Numeral where
  canonical : digits.head? = some '0' → digits = ['0'] ∧ negative = false
  deriving DecidableEq

namespace Order

/-! ## Canonical forms -/

def zero : Order where
  negative := false
  digits := ['0']
  nonempty := by simp
  decimal := fun _ h => List.mem_singleton.1 h ▸ rfl
  canonical := by simp

/-- The order that a numeral denotes: leading zeros and the sign of zero are dropped. -/
def ofNumeral (n : Numeral) : Order :=
  if h : n.digits.dropWhile (· == '0') = [] then
    zero
  else
    { negative := n.negative
      digits := n.digits.dropWhile (· == '0')
      nonempty := h
      decimal := fun d hd => n.decimal d ((List.dropWhile_sublist _).subset hd)
      canonical := fun hzero => by
        have hhead := List.head?_dropWhile_not (· == '0') n.digits
        simp [hzero] at hhead }

/-- Reads an order: any numeral, in canonical form. -/
def parse (text : String) : Except LexError Order :=
  match Numeral.parse? text with
  | none => .error (.malformed .order text)
  | some numeral => .ok (ofNumeral numeral)

/-- The order of an integer. -/
def ofInt (n : Int) : Order :=
  ofNumeral (.ofInt n)

/-- The order of a word. -/
def ofWord (n : Word) : Order :=
  ofInt n.toInt

/-! ## Views -/

/-- The integer that an order denotes. -/
def toInt (order : Order) : Int :=
  order.toNumeral.value

/-- The word of an order, if it fits: what is read from the text of the order. -/
def toWord? (order : Order) : Option Word := do
  Word.ofNumeral? (← Numeral.parse? order.render)

/-! ## Comparison -/

/-- Compares digits without leading zeros: the longer are the greater, and digits of equal length
compare from the left. -/
def compareDigits (a b : List Char) : Ordering :=
  (Ord.compare a.length b.length).then (Ord.compare a b)

/-- Compares canonical forms: by sign first, then by magnitude. -/
def compare (a b : Order) : Ordering :=
  match a.negative, b.negative with
  | false, true => .gt
  | true, false => .lt
  | false, false => compareDigits a.digits b.digits
  | true, true => compareDigits b.digits a.digits

instance : Ord Order where
  compare := compare

/-- Whether one order does not come after another. -/
def le (a b : Order) : Bool :=
  (compare a b).isLE

end Order

end FrameCode
