import FrameCode.Frames

/-!
# Operands of a running program

- `Instruction.operandAt`, `Instruction.varAt`, `Instruction.labelAt`: operands by position
- `Instruction.contentAt`, `Instruction.valueAt`: what an operand stands for
- `Instruction.wordAt`, `Instruction.boolAt`, `Instruction.stringAt`: values of a required type
- `Instruction.pairAt`: two values of one type
-/

namespace FrameCode
namespace Instruction

/-! ## Operands by position -/

def operandAt (i : Instruction) (k : Nat) : Except Fault Operand :=
  match i.operands[k]? with
  | some operand => .ok operand
  | none => .error (.malformed i.opcode)

def varAt (i : Instruction) (k : Nat) : Except Fault Variable := do
  match ← i.operandAt k with
  | .var v => .ok v
  | _ => .error (.malformed i.opcode)

def labelAt (i : Instruction) (k : Nat) : Except Fault String := do
  match ← i.operandAt k with
  | .label name => .ok name
  | _ => .error (.malformed i.opcode)

/-- The type that an operand names. -/
def typeAt (i : Instruction) (k : Nat) : Except Fault TypeTag := do
  match ← i.operandAt k with
  | .literal (.type tag) => .ok tag
  | _ => .error (.malformed i.opcode)

/-! ## Values -/

/-- What an operand holds; a declared variable may hold nothing. -/
def contentAt (i : Instruction) (frames : Frames) (k : Nat) : Except Fault (Option Value) := do
  match ← i.operandAt k with
  | .var v => frames.read v
  | .literal value => .ok (some value)
  | .label _ => .error (.malformed i.opcode)

/-- The value of an operand. -/
def valueAt (i : Instruction) (frames : Frames) (k : Nat) : Except Fault Value := do
  match ← i.operandAt k with
  | .var v =>
    match ← frames.read v with
    | some value => .ok value
    | none => .error (.unassigned v)
  | .literal value => .ok value
  | .label _ => .error (.malformed i.opcode)

def wordAt (i : Instruction) (frames : Frames) (k : Nat) : Except Fault Word := do
  match ← i.valueAt frames k with
  | .int n => .ok n
  | other => .error (.wrongType i.opcode .int other.tag)

def boolAt (i : Instruction) (frames : Frames) (k : Nat) : Except Fault Bool := do
  match ← i.valueAt frames k with
  | .bool b => .ok b
  | other => .error (.wrongType i.opcode .bool other.tag)

def stringAt (i : Instruction) (frames : Frames) (k : Nat) : Except Fault String := do
  match ← i.valueAt frames k with
  | .string s => .ok s
  | other => .error (.wrongType i.opcode .string other.tag)

/-- Two neighbouring operands, which must have one type. -/
def pairAt (i : Instruction) (frames : Frames) (k : Nat) : Except Fault (Value × Value) := do
  let a ← i.valueAt frames k
  let b ← i.valueAt frames (k + 1)
  if a.tag = b.tag then
    .ok (a, b)
  else
    .error (.typeMismatch i.opcode a.tag b.tag)

end Instruction
end FrameCode
