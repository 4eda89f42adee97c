import FrameCode.Proofs.Numerals

/-!
# Orders compare as integers

Orders are compared by signs, lengths and digits, and never as numbers.  Their digits have no
leading zeros, so the comparison is that of the integers they denote.

- `Numeral.magnitude_lt_of_length_lt`: more canonical digits denote a greater number
- `Numeral.compare_eq_of_length`: digits of one length compare as their numbers
- `Order.compare_eq`, `Order.le_iff`: orders compare as integers
-/

namespace FrameCode

/-! ## Digits -/

namespace Numeral

variable {c d : Char} {a b : List Char}

/-- Of two digits before equally many others, the smaller one makes the smaller number. -/
theorem magnitude_lt_of_head_lt (hc : c.isDigit = true) (ha : ∀ x ∈ a, x.isDigit = true)
    (hlength : a.length = b.length) (hlt : c.toNat < d.toNat) :
    magnitude (c :: a) < magnitude (d :: b) := by
  have hbounds : 48 ≤ c.toNat ∧ c.toNat ≤ 57 := toNat_of_isDigit hc
  have hrest : magnitude a < 10 ^ b.length := hlength ▸ magnitude_lt ha
  have hstep : c.toNat - 48 + 1 ≤ d.toNat - 48 := by omega
  calc
    magnitude (c :: a) = 10 ^ b.length * (c.toNat - 48) + magnitude a := by
      rw [magnitude_cons, hlength]
    _ < 10 ^ b.length * (c.toNat - 48) + 10 ^ b.length := Nat.add_lt_add_left hrest _
    _ = 10 ^ b.length * (c.toNat - 48 + 1) := (Nat.mul_succ _ _).symm
    _ ≤ 10 ^ b.length * (d.toNat - 48) := Nat.mul_le_mul_left _ hstep
    _ ≤ magnitude (d :: b) := by
      rw [magnitude_cons]
      exact Nat.le_add_right _ _

theorem magnitude_cons_lt_cons_iff (hlength : a.length = b.length) :
    magnitude (c :: a) < magnitude (c :: b) ↔ magnitude a < magnitude b := by
  rw [magnitude_cons, magnitude_cons, hlength]
  exact Nat.add_lt_add_iff_left

/-- Digits of one length compare from the left as their numbers do. -/
theorem compare_eq_of_length (ha : ∀ x ∈ a, x.isDigit = true) (hb : ∀ x ∈ b, x.isDigit = true)
    (hlength : a.length = b.length) :
    Ord.compare a b = Ord.compare (magnitude a) (magnitude b) := by
  induction a generalizing b with
  | nil =>
    have hempty : b = [] := List.eq_nil_of_length_eq_zero hlength.symm
    subst hempty
    rfl
  | cons c a ih =>
    cases b with
    | nil => cases hlength
    | cons d b =>
      have hrest : a.length = b.length := Nat.succ.inj hlength
      have ha' : ∀ x ∈ a, x.isDigit = true := fun x hx => ha x (List.mem_cons_of_mem _ hx)
      have hb' : ∀ x ∈ b, x.isDigit = true := fun x hx => hb x (List.mem_cons_of_mem _ hx)
      rw [List.compare_cons_cons]
      -- The first digit decides unless it is the same on both sides.
      rcases Nat.lt_trichotomy c.toNat d.toNat with hlt | heq | hgt
      · have hfirst : Ord.compare c d = .lt := compareOfLessAndEq_eq_lt.2 hlt
        have hnumber : magnitude (c :: a) < magnitude (d :: b) :=
          magnitude_lt_of_head_lt (ha c List.mem_cons_self) ha' hrest hlt
        rw [hfirst, Nat.compare_eq_lt.2 hnumber]
        rfl
      · have hsame : c = d := Char.toNat_inj.1 heq
        subst hsame
        have hfirst : Ord.compare c c = .eq := Std.ReflOrd.compare_self
        rw [hfirst, Ordering.eq_then, ih ha' hb' hrest, Nat.compare_eq_ite_lt,
          Nat.compare_eq_ite_lt]
        simp only [magnitude_cons_lt_cons_iff hrest, magnitude_cons_lt_cons_iff hrest.symm]
      · have hfirst : Ord.compare c d = .gt :=
          Std.OrientedCmp.gt_of_lt (compareOfLessAndEq_eq_lt.2 hgt)
        have hnumber : magnitude (d :: b) < magnitude (c :: a) :=
          magnitude_lt_of_head_lt (hb d List.mem_cons_self) hb' hrest.symm hgt
        rw [hfirst, Nat.compare_eq_gt.2 hnumber]
        rfl

/-- More canonical digits denote a greater number. -/
theorem magnitude_lt_of_length_lt (ha : Canonical a) (hb : Canonical b)
    (hlength : a.length < b.length) : magnitude a < magnitude b := by
  have hpositive : 0 < a.length := List.length_pos_iff.2 ha.1.1
  cases b with
  | nil => cases hlength
  | cons d b =>
    have hlonger : a.length ≤ b.length := Nat.le_of_lt_succ hlength
    have hleading : d ≠ '0' := by
      intro hzero
      have hsingle : d :: b = ['0'] := hb.2 (by rw [hzero]; rfl)
      have hempty : b.length = 0 := congrArg (fun digits => digits.length - 1) hsingle
      omega
    calc
      magnitude a < 10 ^ a.length := magnitude_lt ha.1.2
      _ ≤ 10 ^ b.length := Nat.pow_le_pow_right (by decide) hlonger
      _ ≤ magnitude (d :: b) := pow_le_magnitude (hb.1.2 d List.mem_cons_self) hleading

end Numeral

/-! ## Orders -/

namespace Order

/-- Canonical digits compare by their lengths and then from the left as their numbers do. -/
theorem compareDigits_eq {a b : List Char} (ha : Numeral.Canonical a) (hb : Numeral.Canonical b) :
    compareDigits a b = Ord.compare (Numeral.magnitude a) (Numeral.magnitude b) := by
  unfold compareDigits
  rcases Nat.lt_trichotomy a.length b.length with hlt | heq | hgt
  · have hnumber : Numeral.magnitude a < Numeral.magnitude b :=
      Numeral.magnitude_lt_of_length_lt ha hb hlt
    rw [Nat.compare_eq_lt.2 hlt, Nat.compare_eq_lt.2 hnumber]
    rfl
  · rw [Nat.compare_eq_eq.2 heq, Ordering.eq_then,
      Numeral.compare_eq_of_length ha.1.2 hb.1.2 heq]
  · have hnumber : Numeral.magnitude b < Numeral.magnitude a :=
      Numeral.magnitude_lt_of_length_lt hb ha hgt
    rw [Nat.compare_eq_gt.2 hgt, Nat.compare_eq_gt.2 hnumber]
    rfl

/-- Orders compare as the integers that they denote. -/
theorem compare_eq (a b : Order) : compare a b = Ord.compare a.toInt b.toInt := by
  unfold compare
  cases ha : a.negative <;> cases hb : b.negative
  case false.false =>
    rw [compareDigits_eq a.canonical_digits b.canonical_digits, toInt_nonneg_of_not_negative ha,
      toInt_nonneg_of_not_negative hb, Nat.compare_eq_ite_lt, Int.compare_eq_ite_lt]
    simp only [Int.ofNat_lt]
  case false.true =>
    have hgt : b.toInt < a.toInt := by
      have hlow : b.toInt < 0 := toInt_neg_of_negative hb
      have hhigh : a.toInt = Numeral.magnitude a.digits := toInt_nonneg_of_not_negative ha
      omega
    exact (Int.compare_eq_gt.2 hgt).symm
  case true.false =>
    have hlt : a.toInt < b.toInt := by
      have hlow : a.toInt < 0 := toInt_neg_of_negative ha
      have hhigh : b.toInt = Numeral.magnitude b.digits := toInt_nonneg_of_not_negative hb
      omega
    exact (Int.compare_eq_lt.2 hlt).symm
  case true.true =>
    -- A negative order of greater magnitude is the smaller one.
    have hvalue : ∀ o : Order, o.negative = true →
        o.toInt = -(Numeral.magnitude o.digits : Int) := by
      intro o ho
      simp [toInt, Numeral.value_eq, Numeral.signed, ho]
    rw [compareDigits_eq b.canonical_digits a.canonical_digits, hvalue a ha, hvalue b hb,
      Nat.compare_eq_ite_lt, Int.compare_eq_ite_lt]
    simp only [Int.neg_lt_neg_iff, Int.ofNat_lt]

theorem le_iff {a b : Order} : a.le b = true ↔ a.toInt ≤ b.toInt := by
  unfold le
  rw [compare_eq]
  exact Int.isLE_compare

end Order

end FrameCode
