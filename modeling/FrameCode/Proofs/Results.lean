import FrameCode.Proofs.StackDiscipline
import FrameCode.Proofs.SuccessCondition

/-!
# Results of instructions

What a storing instruction computes depends on nothing but the values of its operands: it does not
matter which frames they are read from, what the target is, or what else the state holds.  So an
opcode can be taken for a function of values that some values are refused by, and laws can be stated
that several instructions take part in.

- `Instruction.HasValues`: the values that an instruction is given
- `Instruction.Delivers`: an instruction stores a value and does nothing else
- `Opcode.Computes`, `Opcode.Fails`: what becomes of given values, in every state
- `Opcode.computes_iff_of_stores`: the values that an opcode computes are those that it stores
-/

namespace FrameCode

/-! ## Values that an instruction is given -/

namespace Opcode

/-- The position of the first operand that an opcode takes a value from.  A target comes before it;
only `SETCHAR` takes the value of its target as well. -/
def firstSource : Opcode → Nat
  | push | write | debugWrite | setChar => 0
  | _ => 1

theorem firstSource_cases (op : Opcode) : op.firstSource = 0 ∨ op.firstSource = 1 := by
  cases op <;> simp [firstSource]

end Opcode

namespace Instruction

variable {i : Instruction} {labels : LabelTable} {m : Machine} {frames : Frames} {k : Nat}

/-- The operands from a position on stand for given values. -/
def HasValuesFrom (i : Instruction) (frames : Frames) : Nat → List Value → Prop
  | _, [] => True
  | k, value :: later => i.HasValue frames k value ∧ i.HasValuesFrom frames (k + 1) later

/-- The operands that an instruction takes values from stand for given values. -/
def HasValues (i : Instruction) (frames : Frames) (values : List Value) : Prop :=
  i.HasValuesFrom frames i.opcode.firstSource values

theorem HasValues.from {op : Opcode} {values : List Value} (h : i.HasValues frames values) (k : Nat)
    (hop : i.opcode = op) (hfirst : op.firstSource = k) : i.HasValuesFrom frames k values := by
  subst hop hfirst
  exact h

/-- Literals stand for their values in all frames. -/
theorem hasValuesFrom_literals (before : List Operand) {values : List Value}
    (h : i.operands = before ++ values.map .literal) :
    i.HasValuesFrom frames before.length values := by
  induction values generalizing before with
  | nil => trivial
  | cons value later ih =>
    have hlater : i.operands = (before ++ [.literal value]) ++ later.map .literal := by simp [h]
    have hvalue : i.operands[before.length]? = some (.literal value) := by simp [h]
    exact ⟨⟨_, hvalue, rfl⟩, by simpa using ih _ hlater⟩

/-- Whatever the values are, there is an instruction that is given them, and a state where it can
store its result. -/
theorem exists_hasValues (op : Opcode) (values : List Value) :
    ∃ (i : Instruction) (m : Machine),
      i.opcode = op ∧ i.HasValues m.frames values ∧ i.TargetDeclared m.frames := by
  -- The target holds the first value, for an opcode that reads it.
  let frame : Frame := Frame.empty.put "x" values.head?
  let m : Machine := { Machine.initial [] (.ofRoom none) (.ofRoom none) with
    frames := ⟨frame, [], none⟩ }
  have hholds : m.frames.Holds ⟨.global, "x"⟩ values.head? :=
    ⟨frame, rfl, Frame.slot?_put_self _ _ _⟩
  rcases op.firstSource_cases with hfirst | hfirst
  · refine ⟨⟨op, .zero, .var ⟨.global, "x"⟩ :: values.tail.map .literal⟩, m, rfl, ?_, _, rfl, _,
      hholds⟩
    unfold HasValues
    rw [hfirst]
    cases values with
    | nil => trivial
    | cons value later =>
      exact ⟨⟨_, rfl, hholds⟩, hasValuesFrom_literals [.var ⟨.global, "x"⟩] rfl⟩
  · refine ⟨⟨op, .zero, .var ⟨.global, "x"⟩ :: values.map .literal⟩, m, rfl, ?_, _, rfl, _, hholds⟩
    unfold HasValues
    rw [hfirst]
    exact hasValuesFrom_literals [.var ⟨.global, "x"⟩] rfl

/-- What an operand stands for is known, so it need not be looked for. -/
theorem exists_hasValue_iff {α : Type} {form : α → Value} {P : α → Prop} {a : α}
    (hform : ∀ {a b}, form a = form b → a = b) (h : i.HasValue frames k (form a)) :
    (∃ a, i.HasValue frames k (form a) ∧ P a) ↔ P a := by
  constructor
  · intro hexists
    rcases hexists with ⟨a', ha', hP⟩
    rwa [hform (h.unique ha')]
  · intro hP
    exact ⟨a, h, hP⟩

/-! ## Values that are stored -/

/-- An instruction assigns a value to its first operand, which holds the value then, and does
nothing else. -/
def Delivers (i : Instruction) (labels : LabelTable) (m : Machine) (value : Value) : Prop :=
  ∃ v frames, i.operands[0]? = some (.var v) ∧ m.frames.assign v value = .ok frames ∧
    frames.Holds v (some value) ∧ i.execute labels m = .done { m with frames := frames }

theorem Stores.delivers {R : Value → Prop} {value : Value}
    (hstores : i.Stores (i.effect labels m) R) (hvalue : R value)
    (htarget : i.TargetDeclared m.frames) : i.Delivers labels m value := by
  rcases htarget with ⟨v, hv, hdeclares⟩
  have hstore : i.store value = .ok (.assign v value) :=
    (Stores.store value _).2 ⟨value, rfl, v, hv, rfl⟩
  have heffect : i.effect labels m = .ok (.assign v value) :=
    (hstores _).2 ⟨value, hvalue, v, hv, rfl⟩
  rcases execute_of_store (heffect.trans hstore.symm) hv hdeclares with
    ⟨frames, hassign, hholds, hdone⟩
  exact ⟨v, frames, hv, hassign, hholds, hdone⟩

/-- The value that is stored can be told from the state after the instruction. -/
theorem Delivers.of_stores {R : Value → Prop} {value : Value} (h : i.Delivers labels m value)
    (hstores : i.Stores (i.effect labels m) R) : R value := by
  rcases h with ⟨v, frames, hv, -, hholds, hdone⟩
  rcases execute_done_effect hdone with ⟨e, heffect, hplace⟩
  rcases (hstores e).1 heffect with ⟨stored, hstored, w, hw, rfl⟩
  have hsame : w = v := Operand.var.inj (Option.some.inj (hw.symm.trans hv))
  subst hsame
  cases hplace with
  | assign _ _ after hafter =>
    have hvalue : some stored = some value :=
      (Frames.holds_of_assign hafter).unique hholds
    rwa [← Option.some.inj hvalue]

end Instruction

/-! ## What an opcode computes -/

namespace Opcode

variable {op : Opcode} {values : List Value} {result : Value} {fault : Fault}

/-- Instructions of an opcode compute a value from given values: in every state they store it in
their target, if the target can be assigned. -/
def Computes (op : Opcode) (values : List Value) (result : Value) : Prop :=
  ∀ (i : Instruction) (labels : LabelTable) (m : Machine), i.opcode = op →
    i.HasValues m.frames values → i.TargetDeclared m.frames → i.Delivers labels m result

/-- Instructions of an opcode fail on given values: in every state they refuse the values and change
nothing, although their target can be assigned. -/
def Fails (op : Opcode) (values : List Value) (fault : Fault) : Prop :=
  ∀ (i : Instruction) (labels : LabelTable) (m : Machine), i.opcode = op →
    i.HasValues m.frames values → i.TargetDeclared m.frames → i.execute labels m = .failed fault m

/-- The values that an opcode computes are those that it stores. -/
theorem computes_iff_of_stores {R : Value → Prop}
    (hstores : ∀ (i : Instruction) (labels : LabelTable) (m : Machine), i.opcode = op →
      i.HasValues m.frames values → i.Stores (i.effect labels m) R) :
    op.Computes values result ↔ R result := by
  constructor
  · intro h
    rcases Instruction.exists_hasValues op values with ⟨i, m, hop, hvalues, htarget⟩
    exact (h i .empty m hop hvalues htarget).of_stores (hstores i .empty m hop hvalues)
  · intro hresult i labels m hop hvalues htarget
    exact (hstores i labels m hop hvalues).delivers hresult htarget

theorem fails_of_effect
    (h : ∀ (i : Instruction) (labels : LabelTable) (m : Machine), i.opcode = op →
      i.HasValues m.frames values → i.TargetDeclared m.frames →
      i.effect labels m = .error fault) : op.Fails values fault := by
  intro i labels m hop hvalues htarget
  exact Instruction.execute_of_error (h i labels m hop hvalues htarget)

/-- No values are refused in one state and accepted in another. -/
theorem Computes.not_fails (h : op.Computes values result) : ¬ op.Fails values fault := by
  intro hfails
  rcases Instruction.exists_hasValues op values with ⟨i, m, hop, hvalues, htarget⟩
  rcases h i .empty m hop hvalues htarget with ⟨v, frames, -, -, -, hdone⟩
  cases hdone.symm.trans (hfails i .empty m hop hvalues htarget)

theorem Fails.unique {other : Fault} (h : op.Fails values fault) (hother : op.Fails values other) :
    fault = other := by
  rcases Instruction.exists_hasValues op values with ⟨i, m, hop, hvalues, htarget⟩
  have hfirst := h i .empty m hop hvalues htarget
  have hsame := hfirst.symm.trans (hother i .empty m hop hvalues htarget)
  exact (Outcome.failed.inj hsame).1

end Opcode

end FrameCode
