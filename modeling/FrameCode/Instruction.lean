import FrameCode.Opcode
import FrameCode.Order

/-!
# Instructions

- `Instruction`: an opcode, its order and its operands
- `Instruction.target?`, `Instruction.label?`: the first operand as a variable or label
- `Instruction.render`: the source form
-/

namespace FrameCode

/-- One instruction of a program. -/
structure Instruction where
  opcode : Opcode
  order : Order
  operands : List Operand
  deriving DecidableEq

namespace Instruction

/-- The first operand, if it is a variable. -/
def target? (i : Instruction) : Option Variable :=
  match i.operands.head? with
  | some (.var v) => some v
  | _ => none

/-- The first operand, if it is a label. -/
def label? (i : Instruction) : Option String :=
  match i.operands.head? with
  | some (.label name) => some name
  | _ => none

/-- The label that an instruction defines. -/
def definition? (i : Instruction) : Option String :=
  if i.opcode = .label then i.label? else none

/-- The source form: the mnemonic and the operands, with single spaces between them. -/
def render (i : Instruction) : String :=
  " ".intercalate (i.opcode.mnemonic :: i.operands.map Operand.render)

end Instruction

end FrameCode
