import FrameCode.Order
import Mathlib.Algebra.Ring.Nat

/-!
# Numerals and integers

The grammar of numerals as a relation between texts and integers, and canonical digits: they are
determined by the number that they denote, so that orders are equal exactly if they are equal as
integers.

- `Numeral.Denotes`: an optional sign and digits, with the integer that they stand for
- `Numeral.Canonical.unique`: digits without leading zeros are determined by their number
- `Numeral.value_ofInt`, `Numeral.denotes_render`: what is written is read again
- `Order.toInt_injective`, `Order.parse_eq_ok_iff`: orders are integers
- `Word.InRange`: the integers that fit a word
- `Word.ofNumeral?_eq`: reading digit by digit gives the word of the integer, if it fits
- `Word.parse_eq_ok_iff`: integer literals
-/

namespace FrameCode

/-! ## The grammar -/

namespace Numeral

/-- One or more decimal digits. -/
def IsDigits (digits : List Char) : Prop :=
  digits ≠ [] ∧ ∀ d ∈ digits, d.isDigit = true

/-- The number that decimal digits denote. -/
abbrev magnitude (digits : List Char) : Nat :=
  Nat.ofDigitChars 10 digits 0

/-- Texts that are numerals, with the integers that they denote. -/
inductive Denotes : List Char → Int → Prop
  | unsigned (digits : List Char) (hdigits : IsDigits digits) : Denotes digits (magnitude digits)
  | plus (digits : List Char) (hdigits : IsDigits digits) :
      Denotes ('+' :: digits) (magnitude digits)
  | minus (digits : List Char) (hdigits : IsDigits digits) :
      Denotes ('-' :: digits) (-(magnitude digits : Int))

theorem unsigned?_eq_some_iff {negative : Bool} {text : List Char} {n : Numeral} :
    unsigned? negative text = some n ↔
      IsDigits text ∧ n.negative = negative ∧ n.digits = text := by
  unfold unsigned? IsDigits
  rcases n with ⟨sign, digits, hnonempty, hdecimal⟩
  constructor
  · intro h
    split at h
    next hdigits =>
      cases h
      exact ⟨⟨hnonempty, hdecimal⟩, rfl, rfl⟩
    next => cases h
  · intro h
    rcases h with ⟨hdigits, rfl, rfl⟩
    have hcheck : digits.isEmpty = false ∧ digits.all Char.isDigit = true :=
      ⟨List.isEmpty_eq_false_iff.2 hdigits.1, List.all_eq_true.2 hdigits.2⟩
    rw [dif_pos hcheck]

theorem exists_unsigned?_iff {negative : Bool} {text : List Char} {value : Int} :
    (∃ n, unsigned? negative text = some n ∧ n.value = value) ↔
      IsDigits text ∧ value = signed negative (magnitude text) := by
  simp only [unsigned?_eq_some_iff]
  constructor
  · intro h
    rcases h with ⟨n, ⟨hdigits, rfl, rfl⟩, rfl⟩
    exact ⟨hdigits, rfl⟩
  · intro h
    rcases h with ⟨hdigits, rfl⟩
    exact ⟨⟨negative, text, hdigits.1, hdigits.2⟩, ⟨hdigits, rfl, rfl⟩, rfl⟩

/-- The texts that are read as numerals are those of the grammar. -/
theorem exists_ofChars?_iff {text : List Char} {value : Int} :
    (∃ n, ofChars? text = some n ∧ n.value = value) ↔ Denotes text value := by
  unfold ofChars?
  -- A sign is not a digit, so the first character tells which constructor applies.
  split
  next digits =>
    rw [exists_unsigned?_iff]
    constructor
    · intro h
      rcases h with ⟨hdigits, rfl⟩
      exact .plus digits hdigits
    · intro h
      cases h with
      | plus _ hdigits => exact ⟨hdigits, rfl⟩
      | unsigned _ hdigits => exact absurd (hdigits.2 '+' (by simp)) (by decide)
  next digits =>
    rw [exists_unsigned?_iff]
    constructor
    · intro h
      rcases h with ⟨hdigits, rfl⟩
      exact .minus digits hdigits
    · intro h
      cases h with
      | minus _ hdigits => exact ⟨hdigits, rfl⟩
      | unsigned _ hdigits => exact absurd (hdigits.2 '-' (by simp)) (by decide)
  next hplus hminus =>
    rw [exists_unsigned?_iff]
    constructor
    · intro h
      rcases h with ⟨hdigits, rfl⟩
      exact .unsigned text hdigits
    · intro h
      cases h with
      | unsigned _ hdigits => exact ⟨hdigits, rfl⟩
      | plus digits _ => exact absurd rfl (hplus digits)
      | minus digits _ => exact absurd rfl (hminus digits)

theorem Denotes.unique {text : List Char} {a b : Int} (ha : Denotes text a) (hb : Denotes text b) :
    a = b := by
  rcases exists_ofChars?_iff.2 ha with ⟨n, hn, rfl⟩
  rcases exists_ofChars?_iff.2 hb with ⟨n', hn', rfl⟩
  have hsame : n = n' := Option.some.inj (hn.symm.trans hn')
  rw [hsame]

theorem exists_parse?_iff {text : String} {value : Int} :
    (∃ n, parse? text = some n ∧ n.value = value) ↔ Denotes text.toList value :=
  exists_ofChars?_iff

/-! ## Canonical digits -/

section Digits

variable {d : Char} {a b digits : List Char}

theorem toNat_of_isDigit (hd : d.isDigit = true) : 48 ≤ d.toNat ∧ d.toNat ≤ 57 :=
  Char.isDigit_iff_toNat.1 hd

/-- The first digit counts as many powers of ten as there are digits behind it. -/
theorem magnitude_cons :
    magnitude (d :: digits) = 10 ^ digits.length * (d.toNat - 48) + magnitude digits := by
  unfold magnitude
  rw [Nat.ofDigitChars_cons, Nat.ofDigitChars_eq_ofDigitChars_zero, Nat.mul_zero, Nat.zero_add]
  rfl

/-- Digits behind a number make it no smaller. -/
theorem le_ofDigitChars (digits : List Char) (k : Nat) : k ≤ Nat.ofDigitChars 10 digits k := by
  rw [Nat.ofDigitChars_eq_ofDigitChars_zero]
  have hpow : 0 < 10 ^ digits.length := Nat.pow_pos (by decide)
  have hshift : k ≤ 10 ^ digits.length * k := Nat.le_mul_of_pos_left k hpow
  omega

theorem magnitude_lt (hdigits : ∀ d ∈ digits, d.isDigit = true) :
    magnitude digits < 10 ^ digits.length := by
  induction digits with
  | nil => simp
  | cons d digits ih =>
    have hd := toNat_of_isDigit (hdigits d (by simp))
    have hrest := ih fun c hc => hdigits c (by simp [hc])
    -- A digit is at most nine, and nine times a power with what is below it stays below ten
    -- times it.
    rw [magnitude_cons, List.length_cons, Nat.pow_succ]
    have hfirst : 10 ^ digits.length * (d.toNat - 48) ≤ 10 ^ digits.length * 9 :=
      Nat.mul_le_mul_left _ (by omega)
    omega

/-- Digits without a leading zero denote a number of their own length. -/
theorem pow_le_magnitude (hd : d.isDigit = true) (hzero : d ≠ '0') :
    10 ^ digits.length ≤ magnitude (d :: digits) := by
  have hbounds := toNat_of_isDigit hd
  have hpositive : 1 ≤ d.toNat - 48 := by
    have hne : d.toNat ≠ 48 := fun h => hzero (Char.toNat_inj.1 h)
    omega
  have hfirst : 10 ^ digits.length * 1 ≤ 10 ^ digits.length * (d.toNat - 48) :=
    Nat.mul_le_mul_left _ hpositive
  rw [magnitude_cons]
  omega

/-- Digits of one length are determined by their number. -/
theorem eq_of_magnitude_eq (ha : ∀ d ∈ a, d.isDigit = true) (hb : ∀ d ∈ b, d.isDigit = true)
    (hlength : a.length = b.length) (h : magnitude a = magnitude b) : a = b := by
  -- From the front: the first digit is the quotient by a power of ten.
  induction a generalizing b with
  | nil => exact (List.eq_nil_of_length_eq_zero hlength.symm).symm
  | cons c a ih =>
    cases b with
    | nil => cases hlength
    | cons d b =>
      have hrest : a.length = b.length := by simpa using hlength
      have hc := toNat_of_isDigit (ha c (by simp))
      have hd := toNat_of_isDigit (hb d (by simp))
      have halt := magnitude_lt fun c' h' => ha c' (List.mem_cons_of_mem _ h')
      have hblt := magnitude_lt fun c' h' => hb c' (List.mem_cons_of_mem _ h')
      rw [magnitude_cons, magnitude_cons, hrest] at h
      rw [hrest] at halt
      -- What stands behind the first digit is the remainder by a power of ten.
      have htail : magnitude a = magnitude b := by
        have hmod := congrArg (· % 10 ^ b.length) h
        simpa [Nat.mul_add_mod, Nat.mod_eq_of_lt halt, Nat.mod_eq_of_lt hblt] using hmod
      have hpow : 0 < 10 ^ b.length := Nat.pow_pos (by decide)
      have hhead : c.toNat - 48 = d.toNat - 48 := Nat.eq_of_mul_eq_mul_left hpow (by omega)
      have hsame : c = d := Char.toNat_inj.1 (by omega)
      have hlater : a = b :=
        ih (fun c' h' => ha c' (by simp [h'])) (fun c' h' => hb c' (by simp [h'])) hrest htail
      rw [hsame, hlater]

/-- Digits without leading zeros: the digit zero, or digits that do not begin with it. -/
def Canonical (digits : List Char) : Prop :=
  IsDigits digits ∧ (digits.head? = some '0' → digits = ['0'])

theorem Canonical.length_le (ha : Canonical a) (hb : Canonical b)
    (h : magnitude a = magnitude b) : a.length ≤ b.length := by
  rcases ha with ⟨⟨hnonempty, hdigits⟩, hleading⟩
  cases a with
  | nil => exact absurd rfl hnonempty
  | cons d digits =>
    by_cases hzero : d = '0'
    · -- Canonical digits that begin with zero are a single zero.
      subst hzero
      have hsingle : '0' :: digits = ['0'] := hleading rfl
      rw [hsingle]
      exact List.length_pos_iff.2 hb.1.1
    · -- More digits would denote a greater number.
      have hlow : 10 ^ digits.length ≤ magnitude (d :: digits) :=
        pow_le_magnitude (hdigits d (by simp)) hzero
      have hhigh := magnitude_lt hb.1.2
      have hpow : 10 ^ digits.length < 10 ^ b.length := by omega
      exact (Nat.pow_lt_pow_iff_right (by decide)).1 hpow

/-- Canonical digits are determined by their number. -/
theorem Canonical.unique (ha : Canonical a) (hb : Canonical b)
    (h : magnitude a = magnitude b) : a = b := by
  have hlength : a.length = b.length :=
    Nat.le_antisymm (ha.length_le hb h) (hb.length_le ha h.symm)
  exact eq_of_magnitude_eq ha.1.2 hb.1.2 hlength h

theorem Canonical.eq_zero (ha : Canonical a) (h : magnitude a = 0) : a = ['0'] := by
  have hzero : Canonical ['0'] := ⟨⟨by simp, by simp [Char.isDigit]⟩, fun _ => rfl⟩
  exact ha.unique hzero h

theorem magnitude_dropWhile (digits : List Char) :
    magnitude (digits.dropWhile (· == '0')) = magnitude digits := by
  induction digits with
  | nil => rfl
  | cons d digits ih =>
    by_cases hzero : d = '0'
    · subst hzero
      rw [List.dropWhile_cons_of_pos (by simp), ih, magnitude_cons]
      simp
    · rw [List.dropWhile_cons_of_neg (by simpa using hzero)]

end Digits

theorem value_eq (n : Numeral) : n.value = signed n.negative (magnitude n.digits) :=
  rfl

theorem signed_zero (negative : Bool) : signed negative 0 = 0 := by
  cases negative <;> rfl

theorem signed_add (negative : Bool) (k l : Nat) :
    signed negative (k + l) = signed negative k + signed negative l := by
  cases negative with
  | false => rfl
  | true => exact (congrArg Neg.neg (Int.natCast_add k l)).trans Int.neg_add

theorem signed_mul (negative : Bool) (k l : Nat) :
    signed negative (k * l) = signed negative k * l := by
  cases negative with
  | false => rfl
  | true => exact (congrArg Neg.neg (Int.natCast_mul k l)).trans (Int.neg_mul _ _).symm

/-! ## Writing -/

/-- The numeral of an integer denotes it. -/
theorem value_ofInt (n : Int) : (ofInt n).value = n := by
  have hmagnitude : magnitude (ofInt n).digits = n.natAbs := Nat.ofDigitChars_ten_toDigits
  rw [value_eq, hmagnitude]
  by_cases hn : n < 0
  · have hsign : (ofInt n).negative = true := decide_eq_true hn
    rw [hsign]
    exact (Int.eq_neg_natAbs_of_nonpos (Int.le_of_lt hn)).symm
  · have hsign : (ofInt n).negative = false := decide_eq_false hn
    rw [hsign]
    exact Int.natAbs_of_nonneg (Int.not_lt.1 hn)

/-- A numeral is written as a text that denotes the same integer. -/
theorem denotes_render (n : Numeral) : Denotes n.render.toList n.value := by
  have hdigits : IsDigits n.digits := ⟨n.nonempty, n.decimal⟩
  unfold render spell
  rw [String.toList_ofList, value_eq]
  cases n.negative with
  | false => exact .unsigned n.digits hdigits
  | true => exact .minus n.digits hdigits

/-- A numeral is written with digits and at most a minus sign. -/
theorem isDigit_or_minus_of_mem_render {n : Numeral} {c : Char} (h : c ∈ n.render.toList) :
    c.isDigit = true ∨ c = '-' := by
  have hmem : c = '-' ∨ c ∈ n.digits := by
    unfold render spell at h
    split at h
    · simpa using h
    · exact .inr (by simpa using h)
  rcases hmem with hminus | hdigit
  · exact .inr hminus
  · exact .inl (n.decimal c hdigit)

end Numeral

/-! ## Orders -/

namespace Order

theorem canonical_digits (o : Order) : Numeral.Canonical o.digits :=
  ⟨⟨o.nonempty, o.decimal⟩, fun hzero => (o.canonical hzero).1⟩

/-- A negative order is below zero: zero has no sign. -/
theorem toInt_neg_of_negative {o : Order} (h : o.negative = true) : o.toInt < 0 := by
  have hvalue : o.toInt = -(Numeral.magnitude o.digits : Int) := by
    simp [toInt, Numeral.value_eq, Numeral.signed, h]
  have hne : Numeral.magnitude o.digits ≠ 0 := by
    intro hzero
    have hdigits : o.digits = ['0'] := o.canonical_digits.eq_zero hzero
    have hpositive : o.negative = false := (o.canonical (by simp [hdigits])).2
    rw [h] at hpositive
    cases hpositive
  omega

theorem toInt_nonneg_of_not_negative {o : Order} (h : o.negative = false) :
    o.toInt = Numeral.magnitude o.digits := by
  simp [toInt, Numeral.value_eq, Numeral.signed, h]

/-- Orders are equal exactly if they are equal as integers. -/
theorem toInt_injective {a b : Order} (h : a.toInt = b.toInt) : a = b := by
  -- The sign is determined by the integer, and with it the digits.
  have hsign : a.negative = b.negative := by
    cases ha : a.negative <;> cases hb : b.negative
    case false.false | true.true => rfl
    case false.true =>
      have hlow := toInt_nonneg_of_not_negative ha
      have hhigh := toInt_neg_of_negative hb
      omega
    case true.false =>
      have hlow := toInt_neg_of_negative ha
      have hhigh := toInt_nonneg_of_not_negative hb
      omega
  have hmagnitude : Numeral.magnitude a.digits = Numeral.magnitude b.digits := by
    simp only [toInt, Numeral.value_eq, Numeral.signed, hsign] at h
    split at h <;> omega
  have hdigits : a.digits = b.digits := a.canonical_digits.unique b.canonical_digits hmagnitude
  rcases a with ⟨⟨_, _, _, _⟩, _⟩
  rcases b with ⟨⟨_, _, _, _⟩, _⟩
  cases hsign
  cases hdigits
  rfl

/-- Canonical form keeps the integer. -/
theorem toInt_ofNumeral (n : Numeral) : (ofNumeral n).toInt = n.value := by
  have hdrop := Numeral.magnitude_dropWhile n.digits
  unfold ofNumeral toInt
  rw [Numeral.value_eq, Numeral.value_eq]
  split
  next hempty =>
    -- Nothing but zeros: the sign does not matter.
    rw [hempty] at hdrop
    have hzero : Numeral.magnitude n.digits = 0 := hdrop.symm
    rw [hzero, Numeral.signed_zero]
    rfl
  next => exact congrArg (Numeral.signed n.negative) hdrop

theorem toInt_ofInt (n : Int) : (ofInt n).toInt = n :=
  (toInt_ofNumeral (.ofInt n)).trans (Numeral.value_ofInt n)

theorem exists_toInt_eq {text : List Char} {n : Int} (h : Numeral.Denotes text n) :
    ∃ o : Order, o.toInt = n := by
  rcases Numeral.exists_ofChars?_iff.2 h with ⟨numeral, -, hvalue⟩
  exact ⟨ofNumeral numeral, (toInt_ofNumeral numeral).trans hvalue⟩

/-- The texts of an order are the numerals that denote it. -/
theorem parse_eq_ok_iff {text : String} {o : Order} :
    parse text = .ok o ↔ Numeral.Denotes text.toList o.toInt := by
  rw [← Numeral.exists_parse?_iff]
  unfold parse
  constructor
  · intro h
    split at h
    next => cases h
    next n hn =>
      cases h
      exact ⟨n, hn, (toInt_ofNumeral n).symm⟩
  · intro h
    rcases h with ⟨n, hn, hvalue⟩
    -- The canonical form of the numeral denotes the same integer as the order.
    have hsame : ofNumeral n = o := toInt_injective ((toInt_ofNumeral n).trans hvalue)
    simp only [hn, hsame]

/-- An order is read from the text that it is written as. -/
theorem parse_render (o : Order) : parse o.render = .ok o :=
  parse_eq_ok_iff.2 o.denotes_render

theorem eq_of_render_eq {a b : Order} (h : a.render = b.render) : a = b := by
  have hread : parse a.render = .ok b := h ▸ parse_render b
  exact Except.ok.inj ((parse_render a).symm.trans hread)

end Order

/-! ## Words -/

namespace Word

/-- An integer fits a word. -/
def InRange (n : Int) : Prop :=
  -0x8000000000000000 ≤ n ∧ n < 0x8000000000000000

instance (n : Int) : Decidable (InRange n) :=
  inferInstanceAs (Decidable (_ ∧ _))

theorem inRange_toInt (w : Word) : InRange w.toInt :=
  ⟨w.le_toInt, w.toInt_lt⟩

theorem exists_ofInt?_iff {n : Int} : (∃ w, ofInt? n = some w) ↔ InRange n := by
  unfold ofInt? InRange
  constructor
  · intro h
    rcases h with ⟨w, hw⟩
    split at hw
    next hrange => omega
    next => cases hw
  · intro hrange
    exact ⟨_, if_pos (by omega)⟩

theorem ofInt?_eq_none_iff {n : Int} : ofInt? n = none ↔ ¬ InRange n := by
  rw [← exists_ofInt?_iff]
  cases ofInt? n <;> simp

theorem ofInt?_eq_some_iff {n : Int} {w : Word} : ofInt? n = some w ↔ w.toInt = n := by
  unfold ofInt?
  constructor
  · intro h
    split at h
    next hrange =>
      cases h
      exact Int64.toInt_ofInt_of_le hrange.1 hrange.2
    next => cases h
  · intro h
    subst h
    have hlow := w.le_toInt
    have hhigh := w.toInt_lt
    rw [if_pos (by omega), Int64.ofInt_toInt]

/-! ### Reading digit by digit -/

/-- What is farther from zero than a number that does not fit, does not fit either. -/
theorem ofInt?_signed_eq_none {negative : Bool} {k l : Nat} (hle : k ≤ l)
    (h : ofInt? (Numeral.signed negative k) = none) :
    ofInt? (Numeral.signed negative l) = none := by
  rw [ofInt?_eq_none_iff] at h ⊢
  unfold InRange at h ⊢
  cases negative with
  | false =>
    change ¬ (_ ≤ (k : Int) ∧ (k : Int) < _) at h
    change ¬ (_ ≤ (l : Int) ∧ (l : Int) < _)
    omega
  | true =>
    change ¬ (_ ≤ -(k : Int) ∧ -(k : Int) < _) at h
    change ¬ (_ ≤ -(l : Int) ∧ -(l : Int) < _)
    omega

/-- Appending a digit gives the word of the longer number, if that fits. -/
theorem appendDigit?_eq {negative : Bool} {n : Word} {k : Nat} {d : Char}
    (hn : n.toInt = Numeral.signed negative k) (hd : d.isDigit = true) :
    appendDigit? negative n d = ofInt? (Numeral.signed negative (10 * k + (d.toNat - 48))) := by
  have hbounds := Numeral.toNat_of_isDigit hd
  have hunit : (Int64.ofNat (d.toNat - 48)).toInt = (d.toNat - 48 : Nat) :=
    Int64.toInt_ofNat_of_lt (by omega)
  have hshift : n.toInt * Int64.toInt 10 = Numeral.signed negative (k * 10) := by
    rw [hn, Numeral.signed_mul]
    rfl
  unfold appendDigit? mul?
  rw [hshift, Nat.mul_comm 10 k]
  cases hword : ofInt? (Numeral.signed negative (k * 10)) with
  | none =>
    -- What does not fit before the digit is appended does not fit with it.
    exact (ofInt?_signed_eq_none (Nat.le_add_right _ _) hword).symm
  | some shifted =>
    have hvalue := ofInt?_eq_some_iff.1 hword
    rw [Numeral.signed_add, ← hvalue]
    cases negative with
    | false =>
      change ofInt? (shifted.toInt + (Int64.ofNat (d.toNat - 48)).toInt) = _
      rw [hunit]
      rfl
    | true =>
      change ofInt? (shifted.toInt - (Int64.ofNat (d.toNat - 48)).toInt) = _
      rw [hunit]
      rfl

/-- Reading a numeral digit by digit gives the word that it denotes, if it fits. -/
theorem foldlM_appendDigit? {negative : Bool} {digits : List Char} {n : Word} {k : Nat}
    (hdigits : ∀ d ∈ digits, d.isDigit = true) (hn : n.toInt = Numeral.signed negative k) :
    digits.foldlM (appendDigit? negative) n =
      ofInt? (Numeral.signed negative (Nat.ofDigitChars 10 digits k)) := by
  induction digits generalizing n k with
  | nil => exact (ofInt?_eq_some_iff.2 hn).symm
  | cons d digits ih =>
    have hrest : ∀ c ∈ digits, c.isDigit = true := fun c hc => hdigits c (by simp [hc])
    have hcons : Nat.ofDigitChars 10 (d :: digits) k =
        Nat.ofDigitChars 10 digits (10 * k + (d.toNat - 48)) := Nat.ofDigitChars_cons
    rw [List.foldlM_cons, appendDigit?_eq hn (hdigits d (by simp)), hcons]
    cases hword : ofInt? (Numeral.signed negative (10 * k + (d.toNat - 48))) with
    | none =>
      -- The digits that follow only take the number farther from zero.
      exact (ofInt?_signed_eq_none (Numeral.le_ofDigitChars digits _) hword).symm
    | some longer => exact ih hrest (ofInt?_eq_some_iff.1 hword)

theorem ofNumeral?_eq (n : Numeral) : ofNumeral? n = ofInt? n.value :=
  foldlM_appendDigit? n.decimal (by cases n.negative <;> rfl)

theorem ofNumeral?_eq_some_iff {n : Numeral} {w : Word} :
    ofNumeral? n = some w ↔ w.toInt = n.value := by
  rw [ofNumeral?_eq, ofInt?_eq_some_iff]

/-- The texts of a word are the numerals that denote it. -/
theorem parse_eq_ok_iff {text : String} {w : Word} :
    parse text = .ok w ↔ Numeral.Denotes text.toList w.toInt := by
  rw [← Numeral.exists_parse?_iff]
  unfold parse
  constructor
  · intro h
    split at h
    next => cases h
    next n hn =>
      split at h
      next => cases h
      next hword =>
        cases h
        exact ⟨n, hn, (ofNumeral?_eq_some_iff.1 hword).symm⟩
  · intro h
    rcases h with ⟨n, hn, hvalue⟩
    have hword : ofNumeral? n = some w := ofNumeral?_eq_some_iff.2 hvalue.symm
    simp only [hn, hword]

/-- The decimal text of a word denotes it. -/
theorem denotes_render (w : Word) : Numeral.Denotes w.render.toList w.toInt := by
  have hdenotes := (Numeral.ofInt w.toInt).denotes_render
  rwa [Numeral.value_ofInt] at hdenotes

end Word

end FrameCode
