import FrameCode.ErrorClass
import FrameCode.Instruction

/-!
# Faults of a running program

- `Fault`: why an instruction fails
- `Fault.errorClass`: the class of a fault
- `Fault.message`: its wording
- `RuntimeError`: a fault with the order of the instruction that failed
-/

namespace FrameCode

/-- Why a channel cannot serve an instruction. -/
inductive ChannelFailure where
  /-- The channel takes no more bytes. -/
  | full
  /-- The bytes of a line are not text in UTF-8. -/
  | notText
  deriving DecidableEq, Repr

/-- Why an instruction fails. -/
inductive Fault where
  /-- Two operands that must agree in type do not. -/
  | typeMismatch (op : Opcode) (left right : TypeTag)
  | wrongType (op : Opcode) (expected found : TypeTag)
  /-- A result does not fit a word. -/
  | overflow (op : Opcode)
  | undefinedVariable (v : Variable)
  | undefinedFrame (scope : Scope)
  | redefinition (v : Variable)
  | undefinedLabel (name : String)
  /-- A variable is declared and holds no value. -/
  | unassigned (v : Variable)
  | emptyCallStack
  | emptyDataStack
  | divisionByZero
  | indexOutOfRange (op : Opcode) (index : Word) (length : Nat)
  /-- A number is not the code point of a character. -/
  | invalidCodePoint (n : Word)
  | emptyReplacement
  | channel (failure : ChannelFailure)
  /-- The operands of an instruction do not fit its opcode. -/
  | malformed (op : Opcode)
  deriving DecidableEq

namespace ChannelFailure

def message : ChannelFailure → String
  | full => "channel full"
  | notText => "stream did not contain valid UTF-8"

end ChannelFailure

namespace Fault

def errorClass : Fault → ErrorClass
  | typeMismatch .. | wrongType .. | overflow .. => .invalidOperand
  | undefinedVariable .. => .undefinedVariable
  | undefinedFrame .. => .undefinedFrame
  | redefinition .. | undefinedLabel .. => .semantic
  | unassigned .. | emptyCallStack | emptyDataStack => .missingValue
  | divisionByZero => .divisionByZero
  | indexOutOfRange .. | invalidCodePoint .. | emptyReplacement => .stringOperation
  | channel .. | malformed .. => .internal

def message : Fault → String
  | typeMismatch op left right =>
    s!"invalid operand - {op.mnemonic} operands differ in type ({left.name} and {right.name})"
  | wrongType op expected found =>
    s!"invalid operand - {op.mnemonic} expects {expected.name}, found {found.name}"
  | overflow op => s!"invalid operand - integer overflow in {op.mnemonic}"
  | undefinedVariable v => s!"undefined variable - {v.render}"
  | undefinedFrame scope => s!"undefined frame - {scope.name} is not defined"
  | redefinition v => s!"semantic error - redefinition of variable {v.render}"
  | undefinedLabel name => s!"semantic error - undefined label '{name}'"
  | unassigned v => s!"missing value - variable {v.render} has no value"
  | emptyCallStack => "missing value - call stack is empty"
  | emptyDataStack => "missing value - data stack is empty"
  | divisionByZero => "division by zero"
  | indexOutOfRange op index length =>
    s!"string operation error - {op.mnemonic} index {index.render} out of range (length {length})"
  | invalidCodePoint n => s!"string operation error - {n.render} is not a valid character code"
  | emptyReplacement => "string operation error - SETCHAR replacement string is empty"
  | channel failure => s!"internal error - {failure.message}"
  | malformed op => s!"internal error - malformed {op.mnemonic} instruction"

end Fault

/-- A fault together with the order of the instruction that failed. -/
structure RuntimeError where
  fault : Fault
  order : Order
  deriving DecidableEq

namespace RuntimeError

def message (e : RuntimeError) : String :=
  s!"{e.fault.message} (instruction {e.order.render})"

end RuntimeError

end FrameCode
