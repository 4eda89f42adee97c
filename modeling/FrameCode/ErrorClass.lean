/-!
# Classes of failures

Every failure that the interpreter reports belongs to one class, and each class has its own exit
code.

- `ErrorClass`: the classes
- `ErrorClass.exitCode`: the exit code of a class
-/

namespace FrameCode

/-- The class of a failure. -/
inductive ErrorClass where
  /-- The command line is incomplete or contradictory. -/
  | invalidArguments
  /-- The document cannot be read. -/
  | inputFile
  /-- The document is not well-formed, or its elements and attributes do not make a program. -/
  | documentFormat
  /-- An unknown language or opcode, or an argument that its opcode does not take. -/
  | source
  /-- A repeated order, label or variable, or a jump to an unknown label. -/
  | semantic
  /-- An operand of the wrong type, or a result that does not fit. -/
  | invalidOperand
  /-- A variable that was never declared. -/
  | undefinedVariable
  /-- A frame that does not exist. -/
  | undefinedFrame
  /-- An unassigned variable or an empty stack. -/
  | missingValue
  | divisionByZero
  /-- A string index out of range, or a number that is no character. -/
  | stringOperation
  /-- A failure outside the program, such as a channel that takes no more output. -/
  | internal
  deriving DecidableEq, Repr

namespace ErrorClass

/-- Every class, in the order of the exit codes. -/
def all : List ErrorClass :=
  [invalidArguments, inputFile, documentFormat, source, semantic, invalidOperand,
    undefinedVariable, undefinedFrame, missingValue, divisionByZero, stringOperation, internal]

def exitCode : ErrorClass → Nat
  | invalidArguments => 10
  | inputFile => 11
  | documentFormat => 31
  | source => 32
  | semantic => 52
  | invalidOperand => 53
  | undefinedVariable => 54
  | undefinedFrame => 55
  | missingValue => 56
  | divisionByZero => 57
  | stringOperation => 58
  | internal => 99

end ErrorClass

end FrameCode
