import FrameCode.Proofs.Handlers
import Mathlib.Data.Rat.Floor

/-!
# Division that rounds down

Words are divided toward zero, and the quotient is corrected where it has been rounded up.  The
result is the floor of the rational quotient, whatever the signs are, and only two divisions have
none: by zero, and of the least word by minus one.

- `Word.fdiv_eq`: the correction of a quotient
- `Word.floor_div_eq`: what rounding down means for rational numbers
- `Word.Indivisible`: the words without a quotient
- `Word.floorDiv?_of_ne_zero`, `Word.floorDiv?_eq_none_iff`: division of words
- `Word.RoundsDown`, `Word.roundsDown`: the quotient, and that no operation on the way to it fails
- `Instruction.execute_floorDiv`: the instruction
-/

namespace FrameCode

namespace Word

/-! ## Quotients of integers -/

/-- The quotient rounded down is the quotient rounded toward zero, or one less if there is a
remainder and the signs differ. -/
theorem fdiv_eq {a b : Int} (hb : b ≠ 0) :
    a.fdiv b =
      if a.tmod b ≠ 0 ∧ ¬ (a < 0 ↔ b < 0) then a.tdiv b - 1 else a.tdiv b := by
  rw [Int.fdiv_eq_tdiv]
  simp only [Int.dvd_iff_tmod_eq_zero]
  -- The sign of the divisor settles the correction, whatever the sign of the dividend is.
  rcases Int.lt_or_gt_of_ne hb with hneg | hpos
  · rw [Int.sign_eq_neg_one_of_neg hneg]
    split_ifs <;> omega
  · rw [Int.sign_eq_one_of_pos hpos]
    split_ifs <;> omega

theorem floor_div_eq_of_pos {a b : Int} (hb : 0 < b) : ⌊(a : ℚ) / b⌋ = a.fdiv b := by
  rcases Int.eq_ofNat_of_zero_le hb.le with ⟨d, rfl⟩
  rw [Int.fdiv_eq_ediv_of_nonneg a hb.le, Int.cast_natCast, Rat.floor_intCast_div_natCast]

/-- Rounding a quotient down is taking the floor of the rational quotient. -/
theorem floor_div_eq {a b : Int} (hb : b ≠ 0) : ⌊(a : ℚ) / b⌋ = a.fdiv b := by
  rcases Int.lt_or_gt_of_ne hb with hneg | hpos
  · -- Both numbers change their signs, so that the divisor is positive.
    calc
      ⌊(a : ℚ) / b⌋ = ⌊((-a : Int) : ℚ) / ((-b : Int) : ℚ)⌋ := by
        rw [Int.cast_neg, Int.cast_neg, neg_div_neg_eq]
      _ = (-a).fdiv (-b) := floor_div_eq_of_pos (Int.neg_pos_of_neg hneg)
      _ = a.fdiv b := Int.neg_fdiv_neg a b
  · exact floor_div_eq_of_pos hpos

/-- A divisor other than zero, one and minus one makes a number smaller by half at least. -/
theorem natAbs_tdiv_le_half {a b : Int} (hb : 2 ≤ b.natAbs) :
    (a.tdiv b).natAbs ≤ a.natAbs / 2 := by
  rw [Int.natAbs_tdiv]
  exact Nat.div_le_div_left hb (by decide)

/-! ## Quotients of words -/

variable {a b q r : Word}

theorem toInt_eq_minusOne_iff : b.toInt = -1 ↔ b = -1 :=
  Int64.toInt_inj (y := -1)

theorem toInt_eq_zero_iff : b.toInt = 0 ↔ b = 0 :=
  Int64.toInt_inj (y := 0)

theorem toInt_eq_least_iff : a.toInt = -0x8000000000000000 ↔ a = Int64.minValue :=
  Int64.toInt_inj (y := Int64.minValue)

/-- The quotient fits a word, unless the least word is divided by minus one. -/
theorem inRange_tdiv_iff (hb : b ≠ 0) :
    InRange (a.toInt.tdiv b.toInt) ↔ ¬ (a = Int64.minValue ∧ b = -1) := by
  have ha := inRange_toInt a
  have hzero : b.toInt ≠ 0 := mt toInt_eq_zero_iff.1 hb
  rw [← toInt_eq_least_iff, ← toInt_eq_minusOne_iff]
  unfold InRange at ha ⊢
  -- One and minus one keep the magnitude of the word, and every other divisor halves it at least.
  by_cases hone : b.toInt = 1
  · rw [hone, Int.tdiv_one]
    omega
  by_cases hminus : b.toInt = -1
  · rw [hminus, Int.tdiv_neg, Int.tdiv_one]
    omega
  · have hhalf : (a.toInt.tdiv b.toInt).natAbs ≤ a.toInt.natAbs / 2 :=
      natAbs_tdiv_le_half (by omega)
    omega

theorem inRange_tmod (hb : b ≠ 0) : InRange (a.toInt.tmod b.toInt) := by
  have hle : (a.toInt.tmod b.toInt).natAbs < b.toInt.natAbs := by
    rw [Int.natAbs_tmod]
    exact Nat.mod_lt _ (Int.natAbs_pos.2 (mt toInt_eq_zero_iff.1 hb))
  have hb := inRange_toInt b
  unfold InRange at hb ⊢
  omega

/-- Only a divisor other than one and minus one leaves a remainder, and then the quotient is not
near the least word. -/
theorem inRange_tdiv_sub_one (hr : a.toInt.tmod b.toInt ≠ 0) (hb : b ≠ 0) :
    InRange (a.toInt.tdiv b.toInt - 1) := by
  have ha := inRange_toInt a
  have hzero : b.toInt ≠ 0 := mt toInt_eq_zero_iff.1 hb
  have hone : b.toInt ≠ 1 := fun h => hr (by rw [h, Int.tmod_one])
  have hminus : b.toInt ≠ -1 := fun h => hr (by rw [h, Int.tmod_neg, Int.tmod_one])
  have hhalf : (a.toInt.tdiv b.toInt).natAbs ≤ a.toInt.natAbs / 2 :=
    natAbs_tdiv_le_half (by omega)
  unfold InRange at ha ⊢
  omega

theorem div?_eq_some_iff : div? a b = some q ↔ b ≠ 0 ∧ q.toInt = a.toInt.tdiv b.toInt := by
  unfold div?
  split
  next hzero => simp [hzero]
  next hzero => simp [hzero, ofInt?_eq_some_iff]

/-- Words without a quotient: a zero divisor, or the one quotient that does not fit. -/
def Indivisible (a b : Word) : Prop :=
  b = 0 ∨ (a = Int64.minValue ∧ b = -1)

theorem div?_eq_none_iff : div? a b = none ↔ Indivisible a b := by
  unfold div? Indivisible
  split
  next hzero => simp [hzero]
  next hzero => rw [ofInt?_eq_none_iff, inRange_tdiv_iff hzero, not_not, or_iff_right hzero]

/-- Where there is a quotient, there is a remainder, and it tells whether the quotient is
corrected. -/
theorem floorDiv?_of_div? (h : div? a b = some q) :
    ∃ r, rem? a b = some r ∧ r.toInt = a.toInt.tmod b.toInt ∧
      floorDiv? a b = if r ≠ 0 ∧ ¬ (a < 0 ↔ b < 0) then sub? q 1 else some q := by
  rcases exists_ofInt?_iff.2 (inRange_tmod (div?_eq_some_iff.1 h).1) with ⟨r, hremainder⟩
  have hr : rem? a b = some r := by
    rw [rem?, h]
    exact hremainder
  refine ⟨r, hr, ofInt?_eq_some_iff.1 hremainder, ?_⟩
  rw [floorDiv?, h, hr]
  rfl

/-- Whether a quotient is corrected can be told from the integers. -/
theorem corrected_iff (hr : r.toInt = a.toInt.tmod b.toInt) :
    (r ≠ 0 ∧ ¬ (a < 0 ↔ b < 0)) ↔
      (a.toInt.tmod b.toInt ≠ 0 ∧ ¬ (a.toInt < 0 ↔ b.toInt < 0)) := by
  rw [← hr, Ne, Ne, ← toInt_eq_zero_iff, Int64.lt_iff_toInt_lt, Int64.lt_iff_toInt_lt]
  rfl

/-- A quotient that has to be corrected can be corrected. -/
theorem exists_sub?_one (h : div? a b = some q) (hr : r.toInt = a.toInt.tmod b.toInt)
    (hcorrected : r ≠ 0 ∧ ¬ (a < 0 ↔ b < 0)) : ∃ n, sub? q 1 = some n := by
  rcases div?_eq_some_iff.1 h with ⟨hb, hquotient⟩
  have hrange := inRange_tdiv_sub_one ((corrected_iff hr).1 hcorrected).1 hb
  rw [← hquotient] at hrange
  exact exists_ofInt?_iff.2 hrange

/-- Division of words is division of integers, checked for its range. -/
theorem floorDiv?_of_ne_zero (hb : b ≠ 0) :
    floorDiv? a b = ofInt? (a.toInt.fdiv b.toInt) := by
  cases hq : div? a b with
  | none =>
    -- The one division whose result does not fit.
    have hpair := (div?_eq_none_iff.1 hq).resolve_left hb
    rw [hpair.1, hpair.2]
    rfl
  | some q =>
    -- Words and integers are corrected under the same condition.
    rcases floorDiv?_of_div? hq with ⟨r, -, hremainder, hsteps⟩
    rw [hsteps, fdiv_eq (mt toInt_eq_zero_iff.1 hb), ← (div?_eq_some_iff.1 hq).2]
    simp only [corrected_iff hremainder]
    split
    next => rfl
    next => exact (ofInt?_eq_some_iff.2 rfl).symm

/-- Words that have a quotient toward zero have one that is rounded down. -/
theorem floorDiv?_eq_none_iff : floorDiv? a b = none ↔ Indivisible a b := by
  rw [← div?_eq_none_iff]
  cases hq : div? a b with
  | none =>
    refine iff_of_true ?_ rfl
    rw [floorDiv?, hq]
    rfl
  | some q =>
    rcases floorDiv?_of_div? hq with ⟨r, -, hremainder, hsteps⟩
    rw [hsteps]
    split
    next hcorrected =>
      rcases exists_sub?_one hq hremainder hcorrected with ⟨n, hn⟩
      simp [hn]
    next => simp

/-- What division does with two words. -/
structure RoundsDown (a b : Word) : Prop where
  none_iff : floorDiv? a b = none ↔ Indivisible a b
  floor : ¬ Indivisible a b → ∃ n, floorDiv? a b = some n ∧ n.toInt = ⌊(a.toInt : ℚ) / b.toInt⌋
  /-- The words are divided toward zero first, which fails for the same words. -/
  quotient : div? a b = none ↔ Indivisible a b
  /-- Nothing fails after that: there is a remainder, and the quotient can be corrected if it has to
  be. -/
  correction : ∀ q, div? a b = some q → ∃ r, rem? a b = some r ∧
    (r ≠ 0 ∧ ¬ (a < 0 ↔ b < 0) → ∃ n, sub? q 1 = some n)

theorem roundsDown (a b : Word) : RoundsDown a b where
  none_iff := floorDiv?_eq_none_iff
  floor := by
    intro h
    have hb : b ≠ 0 := fun hzero => h (.inl hzero)
    rcases Option.ne_none_iff_exists'.1 (mt floorDiv?_eq_none_iff.1 h) with ⟨n, hn⟩
    refine ⟨n, hn, ?_⟩
    rw [floorDiv?_of_ne_zero hb, ofInt?_eq_some_iff] at hn
    rw [hn, floor_div_eq (mt toInt_eq_zero_iff.1 hb)]
  quotient := div?_eq_none_iff
  correction := by
    intro q hq
    rcases floorDiv?_of_div? hq with ⟨r, hr, hremainder, -⟩
    exact ⟨r, hr, exists_sub?_one hq hremainder⟩

end Word

/-! ## The instruction -/

namespace Instruction

variable {i : Instruction} {labels : LabelTable} {m : Machine} {a b : Word}

/-- What a division does in a state where its operands stand for two words.  Both faults are found
before the target is looked at. -/
structure DividesInto (i : Instruction) (labels : LabelTable) (m : Machine) (a b : Word) :
    Prop where
  divisionByZero : (i.execute labels m).fault? = some .divisionByZero ↔ b = 0
  overflow : (i.execute labels m).fault? = some (.overflow .floorDiv) ↔
    a = Int64.minValue ∧ b = -1
  stores : ¬ Word.Indivisible a b → ∀ v, i.operands[0]? = some (.var v) → m.frames.Declares v →
    ∃ n frames, n.toInt = ⌊(a.toInt : ℚ) / b.toInt⌋ ∧ m.frames.assign v (.int n) = .ok frames ∧
      frames.Holds v (some (.int n)) ∧ i.execute labels m = .done { m with frames := frames }

theorem effect_floorDiv (hop : i.opcode = .floorDiv) (ha : i.HasValue m.frames 1 (.int a))
    (hb : i.HasValue m.frames 2 (.int b)) :
    i.effect labels m =
      if b = 0 then .error .divisionByZero
      else i.orOverflow (Word.floorDiv? a b) >>= fun n => i.store (.int n) := by
  unfold effect division
  rw [hop, wordAt_eq_ok_iff.2 ha, wordAt_eq_ok_iff.2 hb]
  rfl

/-- Words without a quotient are refused with a fault of their own, whatever the target is. -/
theorem fault?_of_indivisible (hop : i.opcode = .floorDiv)
    (ha : i.HasValue m.frames 1 (.int a)) (hb : i.HasValue m.frames 2 (.int b))
    (h : Word.Indivisible a b) :
    (i.execute labels m).fault? =
      some (if b = 0 then .divisionByZero else .overflow .floorDiv) := by
  have heffect : i.effect labels m =
      .error (if b = 0 then .divisionByZero else .overflow .floorDiv) := by
    rw [effect_floorDiv hop ha hb, Word.floorDiv?_eq_none_iff.2 h, ← hop]
    split
    next => rfl
    next => rfl
  rw [execute_of_error heffect]
  rfl

/-- The quotient of other words is stored. -/
theorem exists_effect_of_divisible (hop : i.opcode = .floorDiv)
    (ha : i.HasValue m.frames 1 (.int a)) (hb : i.HasValue m.frames 2 (.int b))
    (h : ¬ Word.Indivisible a b) :
    ∃ n, n.toInt = ⌊(a.toInt : ℚ) / b.toInt⌋ ∧ i.effect labels m = i.store (.int n) := by
  rcases (Word.roundsDown a b).floor h with ⟨n, hn, hfloor⟩
  refine ⟨n, hfloor, ?_⟩
  rw [effect_floorDiv hop ha hb, if_neg fun hzero => h (.inl hzero), hn]
  rfl

theorem dividesInto_of_indivisible (hop : i.opcode = .floorDiv)
    (ha : i.HasValue m.frames 1 (.int a)) (hb : i.HasValue m.frames 2 (.int b))
    (h : Word.Indivisible a b) : i.DividesInto labels m a b := by
  have hfault : (i.execute labels m).fault? = _ := fault?_of_indivisible hop ha hb h
  by_cases hzero : b = 0
  · rw [if_pos hzero] at hfault
    have hminus : b ≠ -1 := by
      rw [hzero]
      decide
    exact ⟨iff_of_true hfault hzero, by simp [hfault, hminus], absurd h⟩
  · rw [if_neg hzero] at hfault
    have hpair := h.resolve_left hzero
    exact ⟨by simp [hfault, hzero], iff_of_true hfault hpair, absurd h⟩

theorem dividesInto_of_divisible (hop : i.opcode = .floorDiv)
    (ha : i.HasValue m.frames 1 (.int a)) (hb : i.HasValue m.frames 2 (.int b))
    (h : ¬ Word.Indivisible a b) : i.DividesInto labels m a b := by
  rcases exists_effect_of_divisible hop ha hb h with ⟨n, hfloor, heffect⟩
  -- The target is the only thing that can be wrong.
  have hclass : ∀ fault, fault.errorClass ∉ [.internal, .undefinedFrame, .undefinedVariable] →
      (i.execute labels m).fault? ≠ some fault :=
    fun fault hfault heq => hfault (fault_of_store heffect heq)
  refine ⟨?_, ?_, ?_⟩
  · exact iff_of_false (hclass _ (by decide)) fun hzero => h (.inl hzero)
  · exact iff_of_false (hclass _ (by decide)) fun hpair => h (.inr hpair)
  · intro _ v hv hdeclares
    rcases execute_of_store heffect hv hdeclares with ⟨frames, hassign, hholds, hdone⟩
    exact ⟨n, frames, hfloor, hassign, hholds, hdone⟩

/-- Division of words rounds down, and no operation on the way fails; the division of the operands
of an instruction is refused without a quotient, whatever the target is, and stored in a target that
can be assigned otherwise. -/
theorem execute_floorDiv :
    (∀ a b : Word, Word.RoundsDown a b) ∧
    ∀ (i : Instruction) (labels : LabelTable) (m : Machine) (a b : Word),
      i.opcode = .floorDiv → i.HasValue m.frames 1 (.int a) → i.HasValue m.frames 2 (.int b) →
        i.DividesInto labels m a b := by
  refine ⟨Word.roundsDown, ?_⟩
  intro i labels m a b hop ha hb
  by_cases h : Word.Indivisible a b
  · exact dividesInto_of_indivisible hop ha hb h
  · exact dividesInto_of_divisible hop ha hb h

/-- Minus seven divided by two is stored as minus four. -/
theorem execute_floorDiv_negative :
    ∃ (i : Instruction) (m : Machine) (frames : Frames),
      i.opcode = .floorDiv ∧ i.HasValue m.frames 1 (.int (-7)) ∧ i.HasValue m.frames 2 (.int 2) ∧
        m.frames.assign ⟨.global, "q"⟩ (.int (-4)) = .ok frames ∧
        frames.Holds ⟨.global, "q"⟩ (some (.int (-4))) ∧
        i.execute .empty m = .done { m with frames := frames } := by
  let i : Instruction :=
    ⟨.floorDiv, .zero, [.var ⟨.global, "q"⟩, .literal (.int (-7)), .literal (.int 2)]⟩
  let m : Machine :=
    ⟨⟨Frame.empty.put "q" none, [], none⟩, [], [], 1, 1, [], .ofRoom none, .ofRoom none⟩
  have hfirst : i.HasValue m.frames 1 (.int (-7)) := ⟨_, rfl, rfl⟩
  have hsecond : i.HasValue m.frames 2 (.int 2) := ⟨_, rfl, rfl⟩
  have hdeclares : m.frames.Declares ⟨.global, "q"⟩ := ⟨none, _, rfl, rfl⟩
  have hdivisible : ¬ Word.Indivisible (-7) 2 := by
    unfold Word.Indivisible
    decide
  rcases (execute_floorDiv.2 i .empty m (-7) 2 rfl hfirst hsecond).stores hdivisible _ rfl
    hdeclares with ⟨n, frames, hfloor, hassign, hholds, hdone⟩
  have hn : n = -4 := Int64.toInt_inj.1 (hfloor.trans (Word.floor_div_eq (by decide)))
  subst hn
  exact ⟨i, m, frames, rfl, hfirst, hsecond, hassign, hholds, hdone⟩

end Instruction
end FrameCode
