import FrameCode.Proofs.Results

/-!
# The laws of comparisons

Five opcodes compare two values.  They refuse values of different types before they look at anything
else.  Values of one type are totally ordered, and the opcodes agree on the order, although three
different computations lead to their results.

- `Value.compare?_swap`, `Value.compare?_eq_iff`, `Value.compare?_lt_trans`: the order of values
- `Opcode.comparing`: the opcodes that compare
- `Instruction.execute_of_tag_ne`: values of different types
- `Value.Compared`, `Value.compared_of_compare?`: values of one type
-/

namespace FrameCode

/-! ## The order of values -/

theorem TypeTag.rank_injective {s t : TypeTag} (h : s.rank = t.rank) : s = t := by
  cases s <;> cases t <;> simp_all [rank]

namespace Value

variable {a b c : Value}

/-- The order is seen from both sides alike. -/
theorem compare?_swap {o : Ordering} (h : a.compare? b = some o) : b.compare? a = some o.swap := by
  cases a <;> cases b <;> simp only [compare?, reduceCtorEq, Option.some.injEq] at h ⊢
  -- What is left are two values of one type, one case for each type.
  all_goals
    rw [← h]
    exact Std.OrientedCmp.eq_swap

/-- Only equal values are in the same place of the order. -/
theorem compare?_eq_iff : a.compare? b = some .eq ↔ a = b := by
  cases a <;> cases b <;>
    simp only [compare?, reduceCtorEq, Option.some.injEq, int.injEq, bool.injEq, string.injEq,
      type.injEq]
  case type.type s t =>
    exact Std.LawfulEqCmp.compare_eq_iff_eq.trans ⟨TypeTag.rank_injective, congrArg _⟩
  all_goals exact Std.LawfulEqCmp.compare_eq_iff_eq

theorem compare?_lt_trans (hab : a.compare? b = some .lt) (hbc : b.compare? c = some .lt) :
    a.compare? c = some .lt := by
  cases a <;> cases b <;> simp only [compare?, reduceCtorEq, Option.some.injEq] at hab
  all_goals cases c <;> simp only [compare?, reduceCtorEq, Option.some.injEq] at hbc ⊢
  all_goals exact Std.TransCmp.lt_trans hab hbc

end Value

/-! ## Values of different types -/

namespace Opcode

/-- The opcodes that compare two values. -/
def comparing : List Opcode :=
  [less, greater, equal, jumpIfEqual, jumpIfNotEqual]

end Opcode

namespace Instruction

variable {i : Instruction} {labels : LabelTable} {m : Machine} {frames : Frames} {k : Nat}
  {a b : Value} {wanted : Bool}

theorem HasValues.pair (h : i.HasValues m.frames [a, b]) (hop : i.opcode ∈ Opcode.comparing) :
    i.HasValue m.frames 1 a ∧ i.HasValue m.frames 2 b := by
  have hfirst : ∀ op ∈ Opcode.comparing, op.firstSource = 1 := by decide
  rcases h.from 1 rfl (hfirst _ hop) with ⟨ha, hb, -⟩
  exact ⟨ha, hb⟩

/-- Every comparison looks up the two values first. -/
theorem effect_of_comparing (hop : i.opcode ∈ Opcode.comparing) :
    ∃ f, i.effect labels m = i.pairAt m.frames 1 >>= f := by
  simp only [Opcode.comparing, List.mem_cons, List.not_mem_nil, or_false] at hop
  rcases hop with hop | hop | hop | hop | hop
  all_goals
    simp only [effect, hop]
    exact ⟨_, rfl⟩

theorem pairAt_of_tag_ne (ha : i.HasValue frames k a) (hb : i.HasValue frames (k + 1) b)
    (h : a.tag ≠ b.tag) : i.pairAt frames k = .error (.typeMismatch i.opcode a.tag b.tag) := by
  unfold pairAt
  rw [valueAt_eq_ok_iff.2 ha, valueAt_eq_ok_iff.2 hb]
  exact if_neg h

/-- Values of different types are refused, whatever the first operand is. -/
theorem execute_of_tag_ne (hop : i.opcode ∈ Opcode.comparing)
    (hvalues : i.HasValues m.frames [a, b]) (h : a.tag ≠ b.tag) :
    i.execute labels m = .failed (.typeMismatch i.opcode a.tag b.tag) m := by
  rcases hvalues.pair hop with ⟨ha, hb⟩
  rcases effect_of_comparing hop with ⟨f, hf⟩
  refine execute_of_error ?_
  rw [hf, pairAt_of_tag_ne ha hb h]
  rfl

/-! ## Values of one type -/

/-- Once the two values of a pair are known, what is said about the pair is said about them. -/
theorem exists_pair_value_iff {P : Value × Value → Prop} (ha : i.HasValue frames 1 a)
    (hb : i.HasValue frames 2 b) :
    (∃ pair : Value × Value, (i.HasValue frames 1 pair.1 ∧ i.HasValue frames 2 pair.2 ∧
        pair.1.tag = pair.2.tag) ∧ P pair) ↔ a.tag = b.tag ∧ P (a, b) := by
  constructor
  · intro h
    rcases h with ⟨⟨a', b'⟩, ⟨ha', hb', htag⟩, hP⟩
    rw [ha.unique ha', hb.unique hb']
    exact ⟨htag, hP⟩
  · intro h
    rcases h with ⟨htag, hP⟩
    exact ⟨(a, b), ⟨ha, hb, htag⟩, hP⟩

/-- An instruction tries to jump: it goes to its label, or fails because the program has no such
label. -/
def TriesJump (i : Instruction) (labels : LabelTable) (m : Machine) : Prop :=
  i.effect labels m = Effect.jump <$> i.destination labels

theorem conditionalJump_of_tag_eq (ha : i.HasValue frames 1 a) (hb : i.HasValue frames 2 b)
    (htag : a.tag = b.tag) :
    i.conditionalJump labels frames wanted =
      if (a == b) = wanted then Effect.jump <$> i.destination labels else .ok .skip := by
  unfold conditionalJump
  rw [pairAt_eq_ok_iff.2 ⟨ha, hb, htag⟩]
  rfl

/-- A conditional jump that is not wanted does nothing, and so it does not try to jump. -/
theorem triesJump_iff (heffect : i.effect labels m = i.conditionalJump labels m.frames wanted)
    (ha : i.HasValue m.frames 1 a) (hb : i.HasValue m.frames 2 b) (htag : a.tag = b.tag) :
    (i.TriesJump labels m ↔ (a == b) = wanted) ∧
      ((a == b) ≠ wanted → i.execute labels m = .done m) := by
  rw [conditionalJump_of_tag_eq ha hb htag] at heffect
  by_cases hwanted : (a == b) = wanted
  · rw [if_pos hwanted] at heffect
    exact ⟨iff_of_true heffect hwanted, absurd hwanted⟩
  · rw [if_neg hwanted] at heffect
    have hskip : ¬ i.TriesJump labels m := by
      intro htries
      cases hdestination : i.destination labels <;>
        cases heffect.symm.trans (htries.trans (congrArg _ hdestination))
    refine ⟨iff_of_false hskip hwanted, fun _ => ?_⟩
    exact execute_of_effect heffect

end Instruction

namespace Opcode

variable {a b result : Value}

/-- A comparison computes whether it accepts the order of two values. -/
theorem comparison_computes_iff {op : Opcode} {accept : Ordering → Bool}
    (hop : op ∈ comparing)
    (heffect : ∀ (i : Instruction) (labels : LabelTable) (m : Machine), i.opcode = op →
      i.effect labels m = i.comparison m.frames accept) :
    op.Computes [a, b] result ↔
      ∃ o, a.compare? b = some o ∧ result = .bool (accept o) := by
  apply computes_iff_of_stores
  intro i labels m hi hvalues
  rcases hvalues.pair (hi ▸ hop) with ⟨ha, hb⟩
  rw [heffect i labels m hi]
  refine Instruction.comparison_stores.congr fun value => ?_
  rw [Instruction.exists_pair_value_iff ha hb]
  refine and_iff_right_of_imp ?_
  intro h
  rcases h with ⟨o, ho, -⟩
  exact Value.exists_compare?_iff.1 ⟨o, ho⟩

theorem less_computes_iff :
    less.Computes [a, b] result ↔ ∃ o, a.compare? b = some o ∧ result = .bool o.isLT :=
  comparison_computes_iff (by decide) fun i labels m hi => by simp only [Instruction.effect, hi]

theorem greater_computes_iff :
    greater.Computes [a, b] result ↔ ∃ o, a.compare? b = some o ∧ result = .bool o.isGT :=
  comparison_computes_iff (by decide) fun i labels m hi => by simp only [Instruction.effect, hi]

theorem equal_computes_iff :
    equal.Computes [a, b] result ↔ a.tag = b.tag ∧ result = .bool (a == b) := by
  apply computes_iff_of_stores
  intro i labels m hi hvalues
  rcases hvalues.pair (hi ▸ by decide) with ⟨ha, hb⟩
  simp only [Instruction.effect, hi]
  exact Instruction.equality_stores.congr fun value => Instruction.exists_pair_value_iff ha hb

theorem less_computes_true_iff : less.Computes [a, b] (.bool true) ↔ a.compare? b = some .lt := by
  rw [less_computes_iff]
  constructor
  · intro h
    rcases h with ⟨o, ho, haccept⟩
    have hlt : o = .lt := Ordering.isLT_iff_eq_lt.1 (Value.bool.inj haccept).symm
    rw [ho, hlt]
  · intro h
    exact ⟨.lt, h, rfl⟩

end Opcode

namespace Value

variable {a b : Value}

/-- What the comparisons of two values of one type come to. -/
structure Compared (a b : Value) (isLess isGreater isEqual : Bool) : Prop where
  less : Opcode.less.Computes [a, b] (.bool isLess)
  greater : Opcode.greater.Computes [a, b] (.bool isGreater)
  equal : Opcode.equal.Computes [a, b] (.bool isEqual)
  /-- Exactly one of the three holds. -/
  one : [isLess, isGreater, isEqual].count true = 1
  isEqual_iff : isEqual = true ↔ a = b
  /-- The first value is less than the second one if the second one is greater. -/
  swapped : Opcode.greater.Computes [b, a] (.bool isLess)
  trans : ∀ c, isLess = true → Opcode.less.Computes [b, c] (.bool true) →
    Opcode.less.Computes [a, c] (.bool true)
  /-- Of two jumps with the same operands, one tries to jump, and the other does nothing. -/
  jumps : ∀ (i j : Instruction) (labels : LabelTable) (m : Machine), i.opcode = .jumpIfEqual →
    j.opcode = .jumpIfNotEqual → i.operands = j.operands → i.HasValues m.frames [a, b] →
      (i.TriesJump labels m ↔ isEqual = true) ∧ (j.TriesJump labels m ↔ isEqual = false) ∧
        (if isEqual then j else i).execute labels m = .done m

/-- The jumps follow what `EQ` computes. -/
theorem jumps_of_tag_eq (htag : a.tag = b.tag) {i j : Instruction} {labels : LabelTable}
    {m : Machine} (hi : i.opcode = .jumpIfEqual) (hj : j.opcode = .jumpIfNotEqual)
    (hoperands : i.operands = j.operands) (hvalues : i.HasValues m.frames [a, b]) :
    (i.TriesJump labels m ↔ (a == b) = true) ∧ (j.TriesJump labels m ↔ (a == b) = false) ∧
      (if a == b then j else i).execute labels m = .done m := by
  rcases hvalues.pair (hi ▸ by decide) with ⟨ha, hb⟩
  have hsame : ∀ {k value}, i.HasValue m.frames k value → j.HasValue m.frames k value := by
    intro k value h
    simpa [Instruction.HasValue, hoperands] using h
  have heffect : i.effect labels m = i.conditionalJump labels m.frames true := by
    simp only [Instruction.effect, hi]
  have heffect' : j.effect labels m = j.conditionalJump labels m.frames false := by
    simp only [Instruction.effect, hj]
  have hfirst := Instruction.triesJump_iff heffect ha hb htag
  have hsecond := Instruction.triesJump_iff heffect' (hsame ha) (hsame hb) htag
  refine ⟨hfirst.1, hsecond.1, ?_⟩
  cases hequal : a == b with
  | true => exact hsecond.2 (by simp [hequal])
  | false => exact hfirst.2 (by simp [hequal])

theorem compared_of_compare? {o : Ordering} (ho : a.compare? b = some o) :
    Compared a b o.isLT o.isGT (a == b) := by
  have htag : a.tag = b.tag := exists_compare?_iff.1 ⟨o, ho⟩
  have hequal : (a == b) = o.isEq := by
    rw [Bool.eq_iff_iff, beq_iff_eq, ← compare?_eq_iff, ho, Option.some.injEq,
      Ordering.isEq_iff_eq_eq]
  refine ⟨?_, ?_, ?_, ?_, beq_iff_eq, ?_, ?_, ?_⟩
  · exact Opcode.less_computes_iff.2 ⟨o, ho, rfl⟩
  · exact Opcode.greater_computes_iff.2 ⟨o, ho, rfl⟩
  · exact Opcode.equal_computes_iff.2 ⟨htag, rfl⟩
  · rw [hequal]
    cases o <;> rfl
  · refine Opcode.greater_computes_iff.2 ⟨o.swap, compare?_swap ho, ?_⟩
    rw [Ordering.isGT_swap]
  · intro c hless hbc
    rw [Opcode.less_computes_true_iff] at hbc ⊢
    rw [Ordering.isLT_iff_eq_lt] at hless
    exact compare?_lt_trans (hless ▸ ho) hbc
  · intro i j labels m hi hj hoperands hvalues
    exact jumps_of_tag_eq htag hi hj hoperands hvalues

/-- Comparisons refuse values of different types before they look at their first operand.  For
values of one type, exactly one of `LT`, `GT` and `EQ` stores true, `EQ` for equal values; the order
is the same from both sides and transitive, and conditional jumps follow what `EQ` stores. -/
theorem comparisons_consistent (a b : Value) :
    (a.tag ≠ b.tag → ∀ (i : Instruction) (labels : LabelTable) (m : Machine),
      i.opcode ∈ Opcode.comparing → i.HasValues m.frames [a, b] →
        i.execute labels m = .failed (.typeMismatch i.opcode a.tag b.tag) m ∧
          (Fault.typeMismatch i.opcode a.tag b.tag).errorClass = .invalidOperand) ∧
    (a.tag = b.tag → ∃ isLess isGreater isEqual, Compared a b isLess isGreater isEqual) := by
  constructor
  · intro htag i labels m hop hvalues
    exact ⟨Instruction.execute_of_tag_ne hop hvalues htag, rfl⟩
  · intro htag
    rcases exists_compare?_iff.2 htag with ⟨o, ho⟩
    exact ⟨_, _, _, compared_of_compare? ho⟩

/-- A number and a string are refused although the label is nowhere, and two strings of different
lengths compare. -/
theorem comparisons_consistent_texts :
    (∃ (i : Instruction) (m : Machine), i.opcode = .jumpIfNotEqual ∧
      i.HasValues m.frames [.int 1, .string "1"] ∧
      i.execute .empty m = .failed (.typeMismatch .jumpIfNotEqual .int .string) m) ∧
    (.string "ab" : Value).tag = (.string "b" : Value).tag ∧
    ∃ isLess isGreater isEqual, Compared (.string "ab") (.string "b") isLess isGreater isEqual := by
  let i : Instruction :=
    ⟨.jumpIfNotEqual, .zero, [.label "end", .literal (.int 1), .literal (.string "1")]⟩
  let m : Machine := .initial [] (.ofRoom none) (.ofRoom none)
  have hvalues : i.HasValues m.frames [.int 1, .string "1"] :=
    ⟨⟨_, rfl, rfl⟩, ⟨_, rfl, rfl⟩, trivial⟩
  have hrefused := (comparisons_consistent (.int 1) (.string "1")).1 (by decide) i .empty m
    (by decide) hvalues
  exact ⟨⟨i, m, rfl, hvalues, hrefused.1⟩, rfl, (comparisons_consistent _ _).2 rfl⟩

end Value

end FrameCode
