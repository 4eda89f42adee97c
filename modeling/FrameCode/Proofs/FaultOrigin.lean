import FrameCode.Proofs.Handlers

/-!
# Where faults come from

While the effect of an instruction is computed, a fault can only be about its operands: a variable
that cannot be read, a label that is nowhere, or values that do not suit the opcode.  An internal
fault means that the operands do not fit the opcode; every other branch that reports such a fault is
never taken.

- `Instruction.Fits.operand`: what an instruction whose operands fit has at a position
- `Instruction.Raises`: the faults that an instruction can have while its effect is computed
- `Instruction.Explains`, `Instruction.effect_explains`: there are no others
- `Instruction.Blames`, `Instruction.effect_blames`: the internal faults among them
-/

namespace FrameCode

namespace Operand

variable {o : Operand}

theorem accepts_var_iff : OperandKind.var.accepts o.argumentType = true ↔ ∃ v, o = .var v := by
  rcases o with v | (n | b | s | tag) | name <;>
    simp [OperandKind.accepts, OperandKind.accepted, argumentType]

theorem accepts_label_iff :
    OperandKind.label.accepts o.argumentType = true ↔ ∃ name, o = .label name := by
  rcases o with v | (n | b | s | tag) | name <;>
    simp [OperandKind.accepts, OperandKind.accepted, argumentType]

theorem accepts_type_iff :
    OperandKind.type.accepts o.argumentType = true ↔ ∃ tag, o = .literal (.type tag) := by
  rcases o with v | (n | b | s | tag) | name <;>
    simp [OperandKind.accepts, OperandKind.accepted, argumentType]

end Operand

namespace Instruction

variable {α β : Type} {i : Instruction} {frames : Frames} {k : Nat} {kind : OperandKind}

/-! ## Operands that fit -/

/-- Where the opcode has a position, an instruction that fits has an operand of an accepted type. -/
theorem Fits.operand (h : i.Fits) (hk : i.opcode.signature[k]? = some kind) :
    ∃ o, i.operands[k]? = some o ∧ kind.accepts o.argumentType = true :=
  exists_getElem?_of_forall₂ h hk

theorem Fits.var (h : i.Fits) (hk : i.opcode.signature[k]? = some .var) :
    ∃ v, i.operands[k]? = some (.var v) := by
  rcases h.operand hk with ⟨o, ho, haccepts⟩
  rcases Operand.accepts_var_iff.1 haccepts with ⟨v, rfl⟩
  exact ⟨v, ho⟩

theorem Fits.label (h : i.Fits) (hk : i.opcode.signature[k]? = some .label) :
    ∃ name, i.operands[k]? = some (.label name) := by
  rcases h.operand hk with ⟨o, ho, haccepts⟩
  rcases Operand.accepts_label_iff.1 haccepts with ⟨name, rfl⟩
  exact ⟨name, ho⟩

theorem Fits.type (h : i.Fits) (hk : i.opcode.signature[k]? = some .type) :
    ∃ tag, i.operands[k]? = some (.literal (.type tag)) := by
  rcases h.operand hk with ⟨o, ho, haccepts⟩
  rcases Operand.accepts_type_iff.1 haccepts with ⟨tag, rfl⟩
  exact ⟨tag, ho⟩

/-- Only a position of labels takes a label. -/
theorem Fits.ne_label (h : i.Fits) (hk : i.opcode.signature[k]? = some kind) (hkind : kind ≠ .label)
    (name : String) : i.operands[k]? ≠ some (.label name) := by
  intro hlabel
  rcases h.operand hk with ⟨o, ho, haccepts⟩
  have hsame : o = .label name := Option.some.inj (ho.symm.trans hlabel)
  subst hsame
  cases kind <;> simp_all [OperandKind.accepts, OperandKind.accepted, Operand.argumentType]

/-! ## Faults of an instruction -/

/-- The faults that an instruction can have while its effect is computed. -/
inductive Raises (i : Instruction) (frames : Frames) : Fault → Prop
  | malformed (hfits : ¬ i.Fits) : Raises i frames (.malformed i.opcode)
  /-- A variable among the operands has no value. -/
  | unreadable (v : Variable) (hv : Operand.var v ∈ i.operands) (fault : Fault)
      (hfault : fault ∈ [.undefinedFrame v.scope, .undefinedVariable v, .unassigned v])
      (hvalue : ∀ value, ¬ frames.Holds v (some value)) : Raises i frames fault
  | undefinedLabel (name : String) (hname : Operand.label name ∈ i.operands) :
      Raises i frames (.undefinedLabel name)
  /-- The values of the operands are not those that the opcode needs. -/
  | unsuitable (fault : Fault)
      (hclass : fault.errorClass ∈ [.invalidOperand, .divisionByZero, .stringOperation]) :
      Raises i frames fault

/-- All faults of a computation are faults that the instruction can have. -/
def Explains (i : Instruction) (frames : Frames) (computation : Except Fault α) : Prop :=
  ∀ fault, computation = .error fault → i.Raises frames fault

namespace Explains

theorem ok (a : α) : i.Explains frames (.ok a) := by
  intro fault hfault
  cases hfault

theorem error {fault : Fault} (h : i.Raises frames fault) :
    i.Explains frames (.error fault : Except Fault α) := by
  intro fault' hfault
  cases hfault
  exact h

theorem malformed (h : ¬ i.Fits) :
    i.Explains frames (.error (.malformed i.opcode) : Except Fault α) :=
  .error (.malformed h)

theorem unsuitable {fault : Fault}
    (h : fault.errorClass ∈ [.invalidOperand, .divisionByZero, .stringOperation]) :
    i.Explains frames (.error fault : Except Fault α) :=
  .error (.unsuitable fault h)

/-- A variable that is declared and read without a value. -/
theorem unassigned {v : Variable} (hv : Operand.var v ∈ i.operands)
    (h : frames.read v = .ok none) :
    i.Explains frames (.error (.unassigned v) : Except Fault α) := by
  refine .error (.unreadable v hv _ (by simp) ?_)
  intro value hvalue
  cases hvalue.unique (Frames.read_eq_ok_iff.1 h)

theorem bind {x : Except Fault α} {f : α → Except Fault β} (hx : i.Explains frames x)
    (hf : ∀ a, x = .ok a → i.Explains frames (f a)) : i.Explains frames (x >>= f) := by
  intro fault hfault
  rcases bind_eq_error_iff.1 hfault with hleft | ⟨a, ha, hright⟩
  · exact hx fault hleft
  · exact hf a ha fault hright

end Explains

/-! ## Look-ups -/

theorem operandAt_explains (hk : i.opcode.signature[k]? = some kind) :
    i.Explains frames (i.operandAt k) := by
  unfold operandAt
  split
  next => exact .ok _
  next hnone =>
    -- The position exists, so an instruction that fits has an operand there.
    refine .malformed fun hfits => ?_
    rcases hfits.operand hk with ⟨o, ho, -⟩
    simp [hnone] at ho

theorem varAt_explains (hk : i.opcode.signature[k]? = some .var) :
    i.Explains frames (i.varAt k) := by
  refine .bind (operandAt_explains hk) fun o ho => ?_
  split
  next => exact .ok _
  next hother =>
    refine .malformed fun hfits => ?_
    rcases hfits.var hk with ⟨v, hv⟩
    exact hother v (Option.some.inj ((operandAt_eq_ok_iff.1 ho).symm.trans hv))

theorem labelAt_explains (hk : i.opcode.signature[k]? = some .label) :
    i.Explains frames (i.labelAt k) := by
  refine .bind (operandAt_explains hk) fun o ho => ?_
  split
  next => exact .ok _
  next hother =>
    refine .malformed fun hfits => ?_
    rcases hfits.label hk with ⟨name, hname⟩
    exact hother name (Option.some.inj ((operandAt_eq_ok_iff.1 ho).symm.trans hname))

theorem typeAt_explains (hk : i.opcode.signature[k]? = some .type) :
    i.Explains frames (i.typeAt k) := by
  refine .bind (operandAt_explains hk) fun o ho => ?_
  split
  next => exact .ok _
  next hother =>
    refine .malformed fun hfits => ?_
    rcases hfits.type hk with ⟨tag, htag⟩
    exact hother tag (Option.some.inj ((operandAt_eq_ok_iff.1 ho).symm.trans htag))

theorem read_explains {v : Variable} (hv : Operand.var v ∈ i.operands) :
    i.Explains frames (frames.read v) := by
  intro fault hfault
  refine .unreadable v hv fault ?_ ?_
  · rcases Frames.read_eq_error hfault with rfl | rfl <;> simp
  · intro value hvalue
    rw [Frames.read_eq_ok_iff.2 hvalue] at hfault
    cases hfault

/-- The opcode has a position that takes more than labels. -/
def TakesValueAt (i : Instruction) (k : Nat) : Prop :=
  ∃ kind, i.opcode.signature[k]? = some kind ∧ kind ≠ .label

theorem contentAt_explains (hk : i.TakesValueAt k) : i.Explains frames (i.contentAt frames k) := by
  rcases hk with ⟨kind, hkind, hlabel⟩
  refine .bind (operandAt_explains hkind) fun o ho => ?_
  cases o with
  | var v => exact read_explains (List.mem_of_getElem? (operandAt_eq_ok_iff.1 ho))
  | literal value => exact .ok _
  | label name =>
    -- No position that takes values accepts a label.
    exact .malformed fun hfits => hfits.ne_label hkind hlabel name (operandAt_eq_ok_iff.1 ho)

theorem valueAt_explains (hk : i.TakesValueAt k) : i.Explains frames (i.valueAt frames k) := by
  rcases hk with ⟨kind, hkind, hlabel⟩
  refine .bind (operandAt_explains hkind) fun o ho => ?_
  cases o with
  | var v =>
    have hv : Operand.var v ∈ i.operands := List.mem_of_getElem? (operandAt_eq_ok_iff.1 ho)
    refine .bind (read_explains hv) fun content hcontent => ?_
    cases content with
    | none => exact .unassigned hv hcontent
    | some value => exact .ok _
  | literal value => exact .ok _
  | label name =>
    exact .malformed fun hfits => hfits.ne_label hkind hlabel name (operandAt_eq_ok_iff.1 ho)

theorem wordAt_explains (hk : i.TakesValueAt k) : i.Explains frames (i.wordAt frames k) := by
  refine .bind (valueAt_explains hk) fun value _ => ?_
  cases value with
  | int n => exact .ok _
  | _ => exact .unsuitable (by simp [Fault.errorClass])

theorem boolAt_explains (hk : i.TakesValueAt k) : i.Explains frames (i.boolAt frames k) := by
  refine .bind (valueAt_explains hk) fun value _ => ?_
  cases value with
  | bool b => exact .ok _
  | _ => exact .unsuitable (by simp [Fault.errorClass])

theorem stringAt_explains (hk : i.TakesValueAt k) : i.Explains frames (i.stringAt frames k) := by
  refine .bind (valueAt_explains hk) fun value _ => ?_
  cases value with
  | string s => exact .ok _
  | _ => exact .unsuitable (by simp [Fault.errorClass])

theorem pairAt_explains (hk : i.opcode.signature[k]? = some .symbol)
    (hk' : i.opcode.signature[k + 1]? = some .symbol) : i.Explains frames (i.pairAt frames k) := by
  refine .bind (valueAt_explains ⟨_, hk, by decide⟩) fun a _ => ?_
  refine .bind (valueAt_explains ⟨_, hk', by decide⟩) fun b _ => ?_
  split
  next => exact .ok _
  next => exact .unsuitable (by simp [Fault.errorClass])

/-! ## Instructions -/

theorem store_explains (hk : i.opcode.signature[0]? = some .var) (value : Value) :
    i.Explains frames (i.store value) :=
  .bind (varAt_explains hk) fun _ _ => .ok _

theorem orOverflow_explains (result : Option Word) : i.Explains frames (i.orOverflow result) := by
  cases result with
  | none => exact .unsuitable (by simp [Fault.errorClass])
  | some n => exact .ok _

theorem arithmetic_explains (h : i.opcode.signature = [.var, .int, .int])
    (operation : Word → Word → Option Word) :
    i.Explains frames (i.arithmetic frames operation) := by
  refine .bind (wordAt_explains (by simp [TakesValueAt, h])) fun a _ => ?_
  refine .bind (wordAt_explains (by simp [TakesValueAt, h])) fun b _ => ?_
  refine .bind (orOverflow_explains _) fun n _ => ?_
  exact store_explains (by simp [h]) _

theorem division_explains (h : i.opcode.signature = [.var, .int, .int]) :
    i.Explains frames (i.division frames) := by
  refine .bind (wordAt_explains (by simp [TakesValueAt, h])) fun a _ => ?_
  refine .bind (wordAt_explains (by simp [TakesValueAt, h])) fun b _ => ?_
  split
  next => exact .unsuitable (by simp [Fault.errorClass])
  next =>
    refine .bind (orOverflow_explains _) fun n _ => ?_
    exact store_explains (by simp [h]) _

/-- Two values that have passed the check of their types do compare. -/
theorem comparison_explains (h : i.opcode.signature = [.var, .symbol, .symbol])
    (accept : Ordering → Bool) : i.Explains frames (i.comparison frames accept) := by
  refine .bind (pairAt_explains (by simp [h]) (by simp [h])) fun pair hpair => ?_
  rcases pair with ⟨a, b⟩
  rcases pairAt_eq_ok_iff.1 hpair with ⟨-, -, htag⟩
  -- So the branch without an ordering is never taken.
  rcases Value.exists_compare?_iff.2 htag with ⟨ordering, hordering⟩
  simp only [hordering]
  exact store_explains (by simp [h]) _

theorem equality_explains (h : i.opcode.signature = [.var, .symbol, .symbol]) :
    i.Explains frames (i.equality frames) := by
  refine .bind (pairAt_explains (by simp [h]) (by simp [h])) fun pair _ => ?_
  exact store_explains (by simp [h]) _

theorem connective_explains (h : i.opcode.signature = [.var, .bool, .bool])
    (operation : Bool → Bool → Bool) : i.Explains frames (i.connective frames operation) := by
  refine .bind (boolAt_explains (by simp [TakesValueAt, h])) fun a _ => ?_
  refine .bind (boolAt_explains (by simp [TakesValueAt, h])) fun b _ => ?_
  exact store_explains (by simp [h]) _

theorem negation_explains (h : i.opcode.signature = [.var, .bool]) :
    i.Explains frames (i.negation frames) := by
  refine .bind (boolAt_explains (by simp [TakesValueAt, h])) fun a _ => ?_
  exact store_explains (by simp [h]) _

theorem indexIn_explains (s : String) (index : Word) : i.Explains frames (i.indexIn s index) := by
  unfold indexIn
  split
  next => exact .ok _
  next => exact .unsuitable (by simp [Fault.errorClass])

/-- An index that has passed the check of its bounds has a character. -/
theorem charAt_explains (s : String) (index : Word) : i.Explains frames (i.charAt s index) := by
  refine .bind (indexIn_explains s index) fun position hposition => ?_
  rcases indexIn_eq_ok_iff.1 hposition with ⟨hbounds, rfl⟩
  rcases exists_getElem?_of_indexesIn hbounds with ⟨c, hc⟩
  simp only [hc]
  exact .ok _

theorem charOfInt_explains (h : i.opcode.signature = [.var, .int]) :
    i.Explains frames (i.charOfInt frames) := by
  refine .bind (wordAt_explains (by simp [TakesValueAt, h])) fun n _ => ?_
  split
  next => exact store_explains (by simp [h]) _
  next => exact .unsuitable (by simp [Fault.errorClass])

theorem intOfChar_explains (h : i.opcode.signature = [.var, .string, .int]) :
    i.Explains frames (i.intOfChar frames) := by
  refine .bind (stringAt_explains (by simp [TakesValueAt, h])) fun s _ => ?_
  refine .bind (wordAt_explains (by simp [TakesValueAt, h])) fun index _ => ?_
  refine .bind (charAt_explains s index) fun c _ => ?_
  exact store_explains (by simp [h]) _

theorem getChar_explains (h : i.opcode.signature = [.var, .string, .int]) :
    i.Explains frames (i.getChar frames) := by
  refine .bind (stringAt_explains (by simp [TakesValueAt, h])) fun s _ => ?_
  refine .bind (wordAt_explains (by simp [TakesValueAt, h])) fun index _ => ?_
  refine .bind (charAt_explains s index) fun c _ => ?_
  exact store_explains (by simp [h]) _

theorem concat_explains (h : i.opcode.signature = [.var, .string, .string]) :
    i.Explains frames (i.concat frames) := by
  refine .bind (stringAt_explains (by simp [TakesValueAt, h])) fun a _ => ?_
  refine .bind (stringAt_explains (by simp [TakesValueAt, h])) fun b _ => ?_
  exact store_explains (by simp [h]) _

theorem length_explains (h : i.opcode.signature = [.var, .string]) :
    i.Explains frames (i.length frames) := by
  refine .bind (stringAt_explains (by simp [TakesValueAt, h])) fun s _ => ?_
  refine .bind (orOverflow_explains _) fun n _ => ?_
  exact store_explains (by simp [h]) _

theorem stringIn_explains {v : Variable} (hv : Operand.var v ∈ i.operands) :
    i.Explains frames (i.stringIn frames v) := by
  refine .bind (read_explains hv) fun content hcontent => ?_
  cases content with
  | none => exact .unassigned hv hcontent
  | some value =>
    cases value with
    | string s => exact .ok _
    | _ => exact .unsuitable (by simp [Fault.errorClass])

theorem setChar_explains (h : i.opcode.signature = [.var, .int, .string]) :
    i.Explains frames (i.setChar frames) := by
  refine .bind (varAt_explains (by simp [h])) fun target htarget => ?_
  have hmem : Operand.var target ∈ i.operands := List.mem_of_getElem? (varAt_eq_ok_iff.1 htarget)
  refine .bind (stringIn_explains hmem) fun s _ => ?_
  refine .bind (wordAt_explains (by simp [TakesValueAt, h])) fun index _ => ?_
  refine .bind (stringAt_explains (by simp [TakesValueAt, h])) fun replacement _ => ?_
  refine .bind (indexIn_explains s index) fun position _ => ?_
  split
  next => exact .unsuitable (by simp [Fault.errorClass])
  next => exact .ok _

theorem typeOf_explains (h : i.opcode.signature = [.var, .symbol]) :
    i.Explains frames (i.typeOf frames) := by
  refine .bind (contentAt_explains (by simp [TakesValueAt, h])) fun content _ => ?_
  exact store_explains (by simp [h]) _

theorem readInput_explains (h : i.opcode.signature = [.var, .type]) : i.Explains frames i.read := by
  refine .bind (varAt_explains (by simp [h])) fun target _ => ?_
  refine .bind (typeAt_explains (by simp [h])) fun tag _ => ?_
  exact .ok _

theorem destination_explains (hk : i.opcode.signature[0]? = some .label) (labels : LabelTable) :
    i.Explains frames (i.destination labels) := by
  refine .bind (labelAt_explains hk) fun name hname => ?_
  split
  next => exact .ok _
  next =>
    have hmem : Operand.label name ∈ i.operands :=
      List.mem_of_getElem? (labelAt_eq_ok_iff.1 hname)
    exact .error (.undefinedLabel name hmem)

theorem conditionalJump_explains (h : i.opcode.signature = [.label, .symbol, .symbol])
    (labels : LabelTable) (wanted : Bool) :
    i.Explains frames (i.conditionalJump labels frames wanted) := by
  refine .bind (pairAt_explains (by simp [h]) (by simp [h])) fun pair _ => ?_
  dsimp only
  split
  next => exact .bind (destination_explains (by simp [h]) labels) fun _ _ => .ok _
  next => exact .ok _

/-- All faults of the computation of an effect are about the operands. -/
theorem effect_explains (i : Instruction) (labels : LabelTable) (m : Machine) :
    i.Explains m.frames (i.effect labels m) := by
  unfold effect
  -- Each handler looks up exactly the positions that the signature of its opcode has.
  cases hop : i.opcode with
  | createFrame | pushFrame | popFrame | ret | label | debugDump => exact .ok _
  | declare | pop =>
    exact .bind (varAt_explains (by simp [hop, Opcode.signature])) fun _ _ => .ok _
  | call | jump =>
    exact .bind (destination_explains (by simp [hop, Opcode.signature]) labels) fun _ _ => .ok _
  | push | write | debugWrite =>
    have hfirst : i.TakesValueAt 0 := by simp [TakesValueAt, hop, Opcode.signature]
    exact .bind (valueAt_explains hfirst) fun _ _ => .ok _
  | move =>
    have hsource : i.TakesValueAt 1 := by simp [TakesValueAt, hop, Opcode.signature]
    refine .bind (valueAt_explains hsource) fun value _ => ?_
    exact store_explains (by simp [hop, Opcode.signature]) value
  | add | sub | mul => exact arithmetic_explains (congrArg Opcode.signature hop) _
  | floorDiv => exact division_explains (congrArg Opcode.signature hop)
  | less | greater => exact comparison_explains (congrArg Opcode.signature hop) _
  | equal => exact equality_explains (congrArg Opcode.signature hop)
  | and | or => exact connective_explains (congrArg Opcode.signature hop) _
  | not => exact negation_explains (congrArg Opcode.signature hop)
  | charOfInt => exact charOfInt_explains (congrArg Opcode.signature hop)
  | intOfChar => exact intOfChar_explains (congrArg Opcode.signature hop)
  | read => exact readInput_explains (congrArg Opcode.signature hop)
  | concat => exact concat_explains (congrArg Opcode.signature hop)
  | length => exact length_explains (congrArg Opcode.signature hop)
  | getChar => exact getChar_explains (congrArg Opcode.signature hop)
  | setChar => exact setChar_explains (congrArg Opcode.signature hop)
  | typeOf => exact typeOf_explains (congrArg Opcode.signature hop)
  | jumpIfEqual | jumpIfNotEqual =>
    exact conditionalJump_explains (congrArg Opcode.signature hop) labels _

/-! ## Internal faults -/

/-- A computation for an instruction has an internal fault only if the operands do not fit, and then
it says so. -/
def Blames (i : Instruction) (computation : Except Fault α) : Prop :=
  ∀ fault, computation = .error fault → fault.errorClass = .internal →
    fault = .malformed i.opcode ∧ ¬ i.Fits

/-- The computation of an effect has internal faults only if the operands do not fit. -/
theorem effect_blames (i : Instruction) (labels : LabelTable) (m : Machine) :
    i.Blames (i.effect labels m) := by
  intro fault hfault hclass
  cases effect_explains i labels m fault hfault with
  | malformed hfits => exact ⟨rfl, hfits⟩
  | unreadable v _ _ hread _ =>
    simp only [List.mem_cons, List.not_mem_nil, or_false] at hread
    rcases hread with rfl | rfl | rfl <;> simp [Fault.errorClass] at hclass
  | undefinedLabel name _ => simp [Fault.errorClass] at hclass
  | unsuitable _ hother =>
    rw [hclass] at hother
    simp at hother

end Instruction
end FrameCode
