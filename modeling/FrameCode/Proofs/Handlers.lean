import FrameCode.Proofs.ActionOutcomes
import FrameCode.Proofs.Numerals
import FrameCode.Proofs.Resolution

/-!
# What instructions compute

Most instructions compute a value from their operands and assign it to their first operand.  For
each of them there is one lemma that gives the value as a relation on the frames, without the order
in which the operands are looked up; the other instructions have their effects described in the same
way.

- `Instruction.IndexesIn`: when a number is an index
- `Instruction.Stores`: a computation assigns the values of a relation
- `Instruction.arithmetic_stores` and its companions: one for each storing instruction
-/

namespace FrameCode

/-! ## Values -/

namespace Value

/-- Two values compare exactly if they have one type. -/
theorem exists_compare?_iff {a b : Value} :
    (∃ ordering, a.compare? b = some ordering) ↔ a.tag = b.tag := by
  cases a <;> cases b <;> simp [compare?, tag]

end Value

namespace Instruction

variable {i : Instruction} {frames : Frames}

/-! ## Checks of results -/

theorem orOverflow_eq_ok_iff {result : Option Word} {n : Word} :
    i.orOverflow result = .ok n ↔ result = some n := by
  cases result <;> simp [orOverflow]

/-- A word is the index of a character of a string. -/
def IndexesIn (s : String) (index : Word) : Prop :=
  0 ≤ index.toInt ∧ index.toInt < s.length

theorem indexIn_eq_ok_iff {s : String} {index : Word} {position : Nat} :
    i.indexIn s index = .ok position ↔ IndexesIn s index ∧ index.toInt.toNat = position := by
  unfold indexIn IndexesIn
  split
  next hbounds => simp [hbounds]
  next hbounds => simp [hbounds]

/-- Every index has a character. -/
theorem exists_getElem?_of_indexesIn {s : String} {index : Word} (h : IndexesIn s index) :
    ∃ c, s.toList[index.toInt.toNat]? = some c := by
  have hlt : index.toInt.toNat < s.toList.length := by
    rw [String.length_toList]
    have := h.1
    have := h.2
    omega
  exact ⟨_, List.getElem?_eq_getElem hlt⟩

theorem charAt_eq_ok_iff {s : String} {index : Word} {c : Char} :
    i.charAt s index = .ok c ↔
      IndexesIn s index ∧ s.toList[index.toInt.toNat]? = some c := by
  simp only [charAt, bind_eq_ok_iff, indexIn_eq_ok_iff]
  constructor
  · intro h
    rcases h with ⟨position, ⟨hbounds, rfl⟩, hc⟩
    rcases exists_getElem?_of_indexesIn hbounds with ⟨c', hc'⟩
    simp_all
  · intro h
    rcases h with ⟨hbounds, hc⟩
    -- The bounds are those of the list of characters, so the look-up cannot miss.
    refine ⟨_, ⟨hbounds, rfl⟩, ?_⟩
    rw [hc]

theorem toNat_ofNat_of_isValidChar {n : Nat} (h : n.isValidChar) : (Char.ofNat n).toNat = n := by
  rw [Char.ofNat, dif_pos h]
  rfl

/-- A word names a character exactly if it is its code point. -/
theorem charOfWord?_eq_some_iff {n : Word} {c : Char} :
    charOfWord? n = some c ↔ n.toInt = c.toNat := by
  unfold charOfWord?
  constructor
  · intro h
    split at h
    next hvalid =>
      cases h
      rw [toNat_ofNat_of_isValidChar hvalid.2]
      exact (Int.toNat_of_nonneg hvalid.1).symm
    next => cases h
  · intro h
    have hvalid : c.toNat.isValidChar := c.valid
    simp [h, hvalid, Char.ofNat_toNat]

/-! ## Storing instructions -/

/-- A computation assigns the values of a relation to the first operand, and it fails if there are
none or if the first operand is not a variable. -/
def Stores (i : Instruction) (computation : Except Fault Effect) (result : Value → Prop) : Prop :=
  ∀ e, computation = .ok e ↔
    ∃ value, result value ∧ ∃ v, i.operands[0]? = some (.var v) ∧ e = .assign v value

namespace Stores

variable {α : Type}

theorem store (value : Value) : i.Stores (i.store value) (· = value) := by
  intro e
  simp only [Instruction.store, bind_eq_ok_iff, varAt_eq_ok_iff, pure_eq_ok_iff]
  constructor
  · intro h
    rcases h with ⟨v, hv, rfl⟩
    exact ⟨value, rfl, v, hv, rfl⟩
  · intro h
    rcases h with ⟨_, rfl, v, hv, rfl⟩
    exact ⟨v, hv, rfl⟩

theorem error (fault : Fault) : i.Stores (.error fault) fun _ => False := by
  intro e
  simp

/-- What is computed first has to be there for the rest. -/
theorem bind {x : Except Fault α} {f : α → Except Fault Effect} {P : α → Prop}
    {R : α → Value → Prop} (hx : ∀ a, x = .ok a ↔ P a) (hf : ∀ a, P a → i.Stores (f a) (R a)) :
    i.Stores (x >>= f) fun value => ∃ a, P a ∧ R a value := by
  intro e
  simp only [bind_eq_ok_iff, hx]
  constructor
  · intro h
    rcases h with ⟨a, ha, hrest⟩
    rcases (hf a ha e).1 hrest with ⟨value, hvalue, htarget⟩
    exact ⟨value, ⟨a, ha, hvalue⟩, htarget⟩
  · intro h
    rcases h with ⟨value, ⟨a, ha, hvalue⟩, htarget⟩
    exact ⟨a, ha, (hf a ha e).2 ⟨value, hvalue, htarget⟩⟩

theorem congr {computation : Except Fault Effect} {R S : Value → Prop}
    (h : i.Stores computation R) (hRS : ∀ value, R value ↔ S value) : i.Stores computation S := by
  intro e
  simp only [← hRS]
  exact h e

end Stores

/-! ## Outcomes of storing instructions -/

section Outcome

variable {labels : LabelTable} {m : Machine} {value : Value}

/-- A value that has been computed is assigned to a first operand that can be assigned, and it is
there afterwards. -/
theorem execute_of_store (heffect : i.effect labels m = i.store value) {v : Variable}
    (hv : i.operands[0]? = some (.var v)) (hdeclares : m.frames.Declares v) :
    ∃ frames, m.frames.assign v value = .ok frames ∧ frames.Holds v (some value) ∧
      i.execute labels m = .done { m with frames := frames } := by
  rcases (Frames.exists_assign_iff value).2 hdeclares with ⟨frames, hframes⟩
  have hstore : i.store value = .ok (.assign v value) :=
    (Stores.store value _).2 ⟨value, rfl, v, hv, rfl⟩
  refine ⟨frames, hframes, Frames.holds_of_assign hframes, ?_⟩
  rw [execute_of_effect (heffect.trans hstore), Effect.apply, hframes]
  rfl

/-- An operand that is not a variable is malformed where a variable is needed. -/
theorem varAt_eq_error {k : Nat} {fault : Fault} (h : i.varAt k = .error fault) :
    fault = .malformed i.opcode := by
  unfold varAt operandAt at h
  cases ho : i.operands[k]? with
  | none =>
    rw [ho] at h
    cases h
    rfl
  | some o =>
    rw [ho] at h
    cases o <;> cases h <;> rfl

/-- Once the value has been computed, only the first operand can make an instruction fail. -/
theorem fault_of_store (heffect : i.effect labels m = i.store value) {fault : Fault}
    (h : (i.execute labels m).fault? = some fault) :
    fault.errorClass ∈ [.internal, .undefinedFrame, .undefinedVariable] := by
  cases hstore : i.store value with
  | error malformed =>
    rw [execute_of_error (heffect.trans hstore)] at h
    cases h
    rcases bind_eq_error_iff.1 hstore with hvar | ⟨v, -, hpure⟩
    · rw [varAt_eq_error hvar]
      simp [Fault.errorClass]
    · cases hpure
  | ok e =>
    rcases (Stores.store value e).1 hstore with ⟨stored, rfl, v, -, rfl⟩
    rw [execute_of_effect (heffect.trans hstore)] at h
    -- What is left is the assignment.
    cases hassign : m.frames.assign v stored with
    | ok frames => simp [Effect.apply, Machine.withFrames, hassign, Outcome.fault?] at h
    | error unassignable =>
      simp only [Effect.apply, Machine.withFrames, hassign, Outcome.fault?] at h
      cases h
      rcases Frames.assign_eq_error hassign with rfl | rfl
      · simp [Fault.errorClass]
      · simp [Fault.errorClass]

end Outcome

/-! ## Arithmetic and logic -/

theorem move_stores :
    i.Stores (do i.store (← i.valueAt frames 1)) fun value =>
      ∃ a, i.HasValue frames 1 a ∧ value = a :=
  .bind (fun _ => valueAt_eq_ok_iff) fun _ _ => .store _

theorem arithmetic_stores {operation : Word → Word → Option Word} :
    i.Stores (i.arithmetic frames operation) fun value =>
      ∃ a, i.HasValue frames 1 (.int a) ∧ ∃ b, i.HasValue frames 2 (.int b) ∧
        ∃ n, operation a b = some n ∧ value = .int n := by
  refine .bind (fun _ => wordAt_eq_ok_iff) fun a _ => ?_
  refine .bind (fun _ => wordAt_eq_ok_iff) fun b _ => ?_
  exact .bind (fun _ => orOverflow_eq_ok_iff) fun _ _ => .store _

theorem division_stores :
    i.Stores (i.division frames) fun value =>
      ∃ a, i.HasValue frames 1 (.int a) ∧ ∃ b, i.HasValue frames 2 (.int b) ∧
        b ≠ 0 ∧ ∃ n, Word.floorDiv? a b = some n ∧ value = .int n := by
  refine .bind (fun _ => wordAt_eq_ok_iff) fun a _ => ?_
  refine .bind (fun _ => wordAt_eq_ok_iff) fun b _ => ?_
  -- The divisor is checked before the quotient is computed.
  by_cases hzero : b = 0
  · rw [if_pos hzero]
    exact (Stores.error _).congr fun _ => by simp [hzero]
  · rw [if_neg hzero]
    have hquotient : i.Stores (i.orOverflow (Word.floorDiv? a b) >>= fun n => i.store (.int n))
        fun value => ∃ n, Word.floorDiv? a b = some n ∧ value = .int n :=
      .bind (fun _ => orOverflow_eq_ok_iff) fun _ _ => .store _
    exact hquotient.congr fun _ => by simp [hzero]

/-- Two values that have passed the check of their types do compare. -/
theorem comparison_stores {accept : Ordering → Bool} :
    i.Stores (i.comparison frames accept) fun value =>
      ∃ pair : Value × Value, (i.HasValue frames 1 pair.1 ∧ i.HasValue frames 2 pair.2 ∧
        pair.1.tag = pair.2.tag) ∧
        ∃ ordering, pair.1.compare? pair.2 = some ordering ∧ value = .bool (accept ordering) := by
  refine .bind (fun _ => pairAt_eq_ok_iff) fun pair hpair => ?_
  -- The pair has one type, which rules out the other branch.
  rcases Value.exists_compare?_iff.2 hpair.2.2 with ⟨ordering, hordering⟩
  simp only [hordering]
  exact (Stores.store _).congr fun _ => by simp

theorem equality_stores :
    i.Stores (i.equality frames) fun value =>
      ∃ pair : Value × Value, (i.HasValue frames 1 pair.1 ∧ i.HasValue frames 2 pair.2 ∧
        pair.1.tag = pair.2.tag) ∧ value = .bool (pair.1 == pair.2) :=
  .bind (fun _ => pairAt_eq_ok_iff) fun _ _ => .store _

theorem connective_stores {operation : Bool → Bool → Bool} :
    i.Stores (i.connective frames operation) fun value =>
      ∃ a, i.HasValue frames 1 (.bool a) ∧ ∃ b, i.HasValue frames 2 (.bool b) ∧
        value = .bool (operation a b) := by
  refine .bind (fun _ => boolAt_eq_ok_iff) fun a _ => ?_
  exact .bind (fun _ => boolAt_eq_ok_iff) fun _ _ => .store _

theorem negation_stores :
    i.Stores (i.negation frames) fun value =>
      ∃ a, i.HasValue frames 1 (.bool a) ∧ value = .bool (!a) :=
  .bind (fun _ => boolAt_eq_ok_iff) fun _ _ => .store _

/-! ## Strings -/

theorem charOfInt_stores :
    i.Stores (i.charOfInt frames) fun value =>
      ∃ n : Word, i.HasValue frames 1 (.int n) ∧
        ∃ c : Char, n.toInt = c.toNat ∧ value = .string (.singleton c) := by
  refine .bind (fun _ => wordAt_eq_ok_iff) fun n _ => ?_
  simp only [← charOfWord?_eq_some_iff]
  cases charOfWord? n with
  | none => exact (Stores.error _).congr fun _ => by simp
  | some c => exact (Stores.store _).congr fun _ => by simp

theorem intOfChar_stores :
    i.Stores (i.intOfChar frames) fun value =>
      ∃ s, i.HasValue frames 1 (.string s) ∧ ∃ index, i.HasValue frames 2 (.int index) ∧
        ∃ c, (IndexesIn s index ∧ s.toList[index.toInt.toNat]? = some c) ∧
          value = .int (wordOfChar c) := by
  refine .bind (fun _ => stringAt_eq_ok_iff) fun s _ => ?_
  refine .bind (fun _ => wordAt_eq_ok_iff) fun index _ => ?_
  exact .bind (fun _ => charAt_eq_ok_iff) fun _ _ => .store _

theorem getChar_stores :
    i.Stores (i.getChar frames) fun value =>
      ∃ s, i.HasValue frames 1 (.string s) ∧ ∃ index, i.HasValue frames 2 (.int index) ∧
        ∃ c, (IndexesIn s index ∧ s.toList[index.toInt.toNat]? = some c) ∧
          value = .string (.singleton c) := by
  refine .bind (fun _ => stringAt_eq_ok_iff) fun s _ => ?_
  refine .bind (fun _ => wordAt_eq_ok_iff) fun index _ => ?_
  exact .bind (fun _ => charAt_eq_ok_iff) fun _ _ => .store _

theorem concat_stores :
    i.Stores (i.concat frames) fun value =>
      ∃ a, i.HasValue frames 1 (.string a) ∧ ∃ b, i.HasValue frames 2 (.string b) ∧
        value = .string (a ++ b) := by
  refine .bind (fun _ => stringAt_eq_ok_iff) fun a _ => ?_
  exact .bind (fun _ => stringAt_eq_ok_iff) fun _ _ => .store _

theorem length_stores :
    i.Stores (i.length frames) fun value =>
      ∃ s, i.HasValue frames 1 (.string s) ∧
        ∃ n, Word.ofInt? s.length = some n ∧ value = .int n := by
  refine .bind (fun _ => stringAt_eq_ok_iff) fun s _ => ?_
  exact .bind (fun _ => orOverflow_eq_ok_iff) fun _ _ => .store _

theorem stringIn_eq_ok_iff {v : Variable} {s : String} :
    i.stringIn frames v = .ok s ↔ frames.Holds v (some (.string s)) := by
  refine (bind_form_eq_ok_iff (fun s => some (.string s)) fun content => ?_).trans
    Frames.read_eq_ok_iff
  rcases content with _ | n | b | s | tag <;> simp

/-- The string that is changed is the value of the first operand itself. -/
theorem setChar_stores :
    i.Stores (i.setChar frames) fun value =>
      ∃ s index replacement c rest, i.HasValue frames 0 (.string s) ∧
        i.HasValue frames 1 (.int index) ∧ i.HasValue frames 2 (.string replacement) ∧
        IndexesIn s index ∧ replacement.toList = c :: rest ∧
        value = .string (.ofList (s.toList.set index.toInt.toNat c)) := by
  intro e
  simp only [setChar, bind_eq_ok_iff, varAt_eq_ok_iff, stringIn_eq_ok_iff, wordAt_eq_ok_iff,
    stringAt_eq_ok_iff, indexIn_eq_ok_iff]
  constructor
  · intro h
    rcases h with ⟨v, hv, s, hs, index, hindex, replacement, hreplacement, position,
      ⟨hbounds, rfl⟩, hrest⟩
    split at hrest
    next => cases hrest
    next c rest hc =>
      cases hrest
      exact ⟨_, ⟨s, index, replacement, c, rest, ⟨.var v, hv, hs⟩, hindex, hreplacement, hbounds,
        hc, rfl⟩, v, hv, rfl⟩
  · intro h
    rcases h with ⟨_, ⟨s, index, replacement, c, rest, ⟨o, ho, hs⟩, hindex, hreplacement, hbounds,
      hc, rfl⟩, v, hv, rfl⟩
    -- The operand that holds the string and the target of the assignment are the same.
    have htarget : o = .var v := Option.some.inj (ho.symm.trans hv)
    subst htarget
    exact ⟨v, hv, s, hs, index, hindex, replacement, hreplacement, _, ⟨hbounds, rfl⟩, by simp [hc]⟩

/-! ## Types, input and control -/

theorem typeOf_stores :
    i.Stores (i.typeOf frames) fun value =>
      ∃ content, (∃ o, i.operands[1]? = some o ∧ o.Contains frames content) ∧
        value = .string (content.elim "" (·.tag.name)) :=
  .bind (fun _ => contentAt_eq_ok_iff) fun _ _ => .store _

theorem read_eq_ok_iff {e : Effect} :
    i.read = .ok e ↔ ∃ v tag, i.operands[0]? = some (.var v) ∧
      i.operands[1]? = some (.literal (.type tag)) ∧ e = .read v tag := by
  simp only [read, bind_eq_ok_iff, varAt_eq_ok_iff, typeAt_eq_ok_iff, pure_eq_ok_iff]
  constructor
  · intro h
    rcases h with ⟨v, hv, tag, htag, rfl⟩
    exact ⟨v, tag, hv, htag, rfl⟩
  · intro h
    rcases h with ⟨v, tag, hv, htag, rfl⟩
    exact ⟨v, hv, tag, htag, rfl⟩

theorem destination_eq_ok_iff {labels : LabelTable} {position : Nat} :
    i.destination labels = .ok position ↔
      ∃ name, i.operands[0]? = some (.label name) ∧ labels.position? name = some position := by
  simp only [destination, bind_eq_ok_iff, labelAt_eq_ok_iff]
  refine exists_congr fun name => and_congr_right fun _ => ?_
  cases labels.position? name <;> simp

/-- A conditional jump jumps if the operands are equal as wanted, and does nothing otherwise. -/
theorem conditionalJump_eq_ok_iff {labels : LabelTable} {wanted : Bool} {e : Effect} :
    i.conditionalJump labels frames wanted = .ok e ↔
      ∃ a b, i.HasValue frames 1 a ∧ i.HasValue frames 2 b ∧ a.tag = b.tag ∧
        (((a == b) = wanted ∧ ∃ position, i.destination labels = .ok position ∧
            e = .jump position) ∨
          ((a == b) ≠ wanted ∧ e = .skip)) := by
  simp only [conditionalJump, bind_eq_ok_iff]
  constructor
  · intro h
    rcases h with ⟨⟨a, b⟩, hpair, hrest⟩
    rcases pairAt_eq_ok_iff.1 hpair with ⟨ha, hb, htag⟩
    refine ⟨a, b, ha, hb, htag, ?_⟩
    dsimp only at hrest
    split at hrest
    next htaken =>
      simp only [bind_eq_ok_iff, pure_eq_ok_iff] at hrest
      rcases hrest with ⟨position, hposition, rfl⟩
      exact .inl ⟨htaken, position, hposition, rfl⟩
    next hskipped => exact .inr ⟨hskipped, (pure_eq_ok_iff.1 hrest).symm⟩
  · intro h
    rcases h with ⟨a, b, ha, hb, htag, hcases⟩
    refine ⟨(a, b), pairAt_eq_ok_iff.2 ⟨ha, hb, htag⟩, ?_⟩
    rcases hcases with ⟨htaken, position, hposition, rfl⟩ | ⟨hskipped, rfl⟩
    · simp [htaken, hposition]
    · simp [hskipped, pure_eq_ok_iff]

end Instruction

end FrameCode
