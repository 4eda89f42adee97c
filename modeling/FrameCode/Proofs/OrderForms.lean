import FrameCode.Proofs.OrderComparison

/-!
# Orders have one form

Integers have many spellings, with signs and leading zeros, and an order may come from any of them
or from a word.  Whatever it comes from, it has one form, so that orders are compared, told apart
and written as the integers that they stand for.

- `Numeral.exists_denotes_iff`: the texts that are numerals
- `Numeral.canonical_toDigits`: numbers are written without leading zeros
- `Order.toNumeral_ofInt`: the sign and the digits of an integer need no correction
- `Order.StandsFor`: the integers of orders that have been read or made from words
- `Order.compare_of_standsFor`: orders compare as integers
- `Order.parse_canonical`: the texts of orders, and the one form of each
-/

namespace FrameCode

/-! ## Numerals -/

namespace Numeral

/-- A numeral is a text with at most one sign, and digits behind it. -/
theorem exists_denotes_iff {text : List Char} :
    (∃ n, Denotes text n) ↔
      ∃ sign ∈ [[], ['+'], ['-']], ∃ digits, IsDigits digits ∧ text = sign ++ digits := by
  constructor
  · intro h
    rcases h with ⟨n, hn⟩
    cases hn with
    | unsigned _ hdigits => exact ⟨[], by simp, _, hdigits, rfl⟩
    | plus digits hdigits => exact ⟨['+'], by simp, digits, hdigits, rfl⟩
    | minus digits hdigits => exact ⟨['-'], by simp, digits, hdigits, rfl⟩
  · intro h
    rcases h with ⟨sign, hsign, digits, hdigits, rfl⟩
    simp only [List.mem_cons, List.not_mem_nil, or_false] at hsign
    rcases hsign with rfl | rfl | rfl
    · exact ⟨_, .unsigned digits hdigits⟩
    · exact ⟨_, .plus digits hdigits⟩
    · exact ⟨_, .minus digits hdigits⟩

/-- A number is written without leading zeros. -/
theorem canonical_toDigits (n : Nat) : Canonical (Nat.toDigits 10 n) := by
  have hdigits : IsDigits (Nat.toDigits 10 n) :=
    ⟨Nat.toDigits_ne_nil, fun _ h => Nat.isDigit_of_mem_toDigits (by decide) (by decide) h⟩
  refine ⟨hdigits, ?_⟩
  intro hzero
  rcases List.head?_eq_some_iff.1 hzero with ⟨rest, hrest⟩
  -- Digits behind a leading zero would denote the number too, and they are fewer than it takes.
  have hvalue : magnitude rest = n := by
    have hwhole : magnitude (Nat.toDigits 10 n) = n := Nat.ofDigitChars_ten_toDigits
    rw [hrest, magnitude_cons] at hwhole
    simpa using hwhole
  by_cases hempty : rest = []
  · rw [hrest, hempty]
  · have hpositive : 0 < rest.length := List.length_pos_iff.2 hempty
    have hdecimal : ∀ d ∈ rest, d.isDigit = true := by
      intro d hd
      exact hdigits.2 d (hrest ▸ List.mem_cons_of_mem _ hd)
    have hlt : n < 10 ^ rest.length := hvalue ▸ magnitude_lt hdecimal
    have hshort : (Nat.toDigits 10 n).length ≤ rest.length :=
      (Nat.length_toDigits_le_iff (by decide) hpositive).2 hlt
    rw [hrest, List.length_cons] at hshort
    omega

end Numeral

/-! ## Orders -/

namespace Order

/-- The numeral of an integer is an order as it is. -/
theorem toNumeral_ofInt (n : Int) : (ofInt n).toNumeral = .ofInt n := by
  have hdigits : Numeral.Canonical (Numeral.ofInt n).digits := Numeral.canonical_toDigits n.natAbs
  have hcanonical : (Numeral.ofInt n).digits.head? = some '0' →
      (Numeral.ofInt n).digits = ['0'] ∧ (Numeral.ofInt n).negative = false := by
    intro hzero
    have hsingle : (Numeral.ofInt n).digits = ['0'] := hdigits.2 hzero
    refine ⟨hsingle, ?_⟩
    -- Only zero is written as a single zero.
    have hvalue : n = 0 := by
      rw [← Numeral.value_ofInt n, Numeral.value_eq, hsingle]
      exact Numeral.signed_zero _
    rw [hvalue]
    rfl
  let order : Order := ⟨.ofInt n, hcanonical⟩
  have hinteger : order.toInt = (ofInt n).toInt :=
    (Numeral.value_ofInt n).trans (toInt_ofInt n).symm
  have hsame : order = ofInt n := toInt_injective hinteger
  rw [← hsame]

theorem toInt_ofWord (w : Word) : (ofWord w).toInt = w.toInt :=
  toInt_ofInt w.toInt

/-- An order has been read from a numeral or made from a word, and it stands for the integer that
the numeral or the word denotes. -/
inductive StandsFor : Order → Int → Prop
  | read (text : String) (order : Order) (n : Int) (hread : parse text = .ok order)
      (hdenotes : Numeral.Denotes text.toList n) : StandsFor order n
  | word (w : Word) : StandsFor (ofWord w) w.toInt

theorem StandsFor.toInt_eq {order : Order} {n : Int} (h : order.StandsFor n) : order.toInt = n := by
  cases h with
  | read text _ _ hread hdenotes => exact (parse_eq_ok_iff.1 hread).unique hdenotes
  | word w => exact toInt_ofWord w

instance : Std.TransCmp compare where
  eq_swap := by
    intro a b
    rw [compare_eq, compare_eq]
    exact Std.OrientedCmp.eq_swap
  isLE_trans := by
    intro a b c hab hbc
    rw [compare_eq] at hab hbc ⊢
    exact Std.TransCmp.isLE_trans hab hbc

instance : Std.LawfulEqCmp compare where
  compare_self := by
    intro a
    rw [compare_eq]
    exact Std.ReflCmp.compare_self
  eq_of_compare := by
    intro a b h
    rw [compare_eq] at h
    exact toInt_injective (Std.LawfulEqCmp.eq_of_compare h)

/-- Orders compare as the integers that they stand for, and they are equal exactly if the integers
are; so the comparison is a total order whose equality is that of orders. -/
theorem compare_of_standsFor (a b : Order) (m n : Int) (ha : a.StandsFor m) (hb : b.StandsFor n) :
    compare a b = Ord.compare m n ∧ (a = b ↔ m = n) ∧ Std.TransCmp compare ∧
      Std.LawfulEqCmp compare := by
  have hm : a.toInt = m := ha.toInt_eq
  have hn : b.toInt = n := hb.toInt_eq
  subst hm hn
  refine ⟨compare_eq a b, ?_, inferInstance, inferInstance⟩
  constructor
  · intro h
    rw [h]
  · exact toInt_injective

/-- A negative number of more than 64 bits, written with leading zeros, is below the least word. -/
theorem compare_of_standsFor_huge :
    ∃ a, parse "-00100000000000000000000" = .ok a ∧ a.StandsFor (-100000000000000000000) ∧
      (ofWord Int64.minValue).StandsFor (-9223372036854775808) ∧
      compare a (ofWord Int64.minValue) = .lt ∧ a ≠ ofWord Int64.minValue := by
  have hdenotes : Numeral.Denotes "-00100000000000000000000".toList (-100000000000000000000) :=
    .minus "00100000000000000000000".toList ⟨by decide, List.all_eq_true.1 rfl⟩
  have hread : parse "-00100000000000000000000" = .ok (ofInt (-100000000000000000000)) :=
    parse_eq_ok_iff.2 ((toInt_ofInt _).symm ▸ hdenotes)
  have hhuge := StandsFor.read _ _ _ hread hdenotes
  have hleast : (ofWord Int64.minValue).StandsFor (-9223372036854775808) :=
    .word Int64.minValue
  rcases compare_of_standsFor _ _ _ _ hhuge hleast with ⟨hcompare, heq, -, -⟩
  exact ⟨_, hread, hhuge, hleast, hcompare, fun hsame => absurd (heq.1 hsame) (by decide)⟩

/-- Exactly the numerals are read as orders; an order is read again from what it is written as; two
numerals are written alike exactly if they denote one integer; and a word is the order that is read
from its decimal text, with the sign and the digits of that text. -/
theorem parse_canonical :
    (∀ text : String, (∃ order, parse text = .ok order) ↔
      ∃ sign ∈ [[], ['+'], ['-']], ∃ digits, Numeral.IsDigits digits ∧
        text.toList = sign ++ digits) ∧
    (∀ order : Order, parse order.render = .ok order) ∧
    (∀ (s t : String) (m n : Int), Numeral.Denotes s.toList m → Numeral.Denotes t.toList n →
      ∃ a b, parse s = .ok a ∧ parse t = .ok b ∧ (a.render = b.render ↔ m = n)) ∧
    ∀ w : Word, parse w.render = .ok (ofWord w) ∧ (ofWord w).toNumeral = .ofInt w.toInt := by
  refine ⟨?_, parse_render, ?_, ?_⟩
  · intro text
    rw [← Numeral.exists_denotes_iff]
    constructor
    · intro h
      rcases h with ⟨order, hread⟩
      exact ⟨order.toInt, parse_eq_ok_iff.1 hread⟩
    · intro h
      rcases h with ⟨n, hn⟩
      rcases exists_toInt_eq hn with ⟨order, rfl⟩
      exact ⟨order, parse_eq_ok_iff.2 hn⟩
  · intro s t m n hs ht
    rcases exists_toInt_eq hs with ⟨a, rfl⟩
    rcases exists_toInt_eq ht with ⟨b, rfl⟩
    refine ⟨a, b, parse_eq_ok_iff.2 hs, parse_eq_ok_iff.2 ht, ?_⟩
    constructor
    · intro h
      rw [eq_of_render_eq h]
    · intro h
      rw [toInt_injective h]
  · intro w
    have hdenotes : Numeral.Denotes w.render.toList (ofWord w).toInt :=
      (toInt_ofWord w).symm ▸ Word.denotes_render w
    exact ⟨parse_eq_ok_iff.2 hdenotes, toNumeral_ofInt w.toInt⟩

/-- Zero is written in one way, whatever its sign and however many digits it has. -/
theorem parse_canonical_zero :
    Numeral.Denotes "-000".toList 0 ∧ Numeral.Denotes "+0".toList 0 ∧
      ∃ a b, parse "-000" = .ok a ∧ parse "+0" = .ok b ∧ a.render = b.render := by
  have hminus : Numeral.Denotes "-000".toList 0 :=
    .minus "000".toList ⟨by decide, List.all_eq_true.1 rfl⟩
  have hplus : Numeral.Denotes "+0".toList 0 :=
    .plus "0".toList ⟨by decide, List.all_eq_true.1 rfl⟩
  rcases parse_canonical.2.2.1 _ _ _ _ hminus hplus with ⟨a, b, ha, hb, hrender⟩
  exact ⟨hminus, hplus, a, b, ha, hb, hrender.2 rfl⟩

end Order

end FrameCode
