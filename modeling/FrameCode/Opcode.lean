import FrameCode.Operand

/-!
# Opcodes

- `Opcode`: the operations of the language
- `Opcode.mnemonic`, `Opcode.ofMnemonic?`: their names in documents
- `Opcode.signature`: the operand positions
- `Opcode.isJump`: the operations that may move the program counter
-/

namespace FrameCode

/-- An operation of the language. -/
inductive Opcode where
  | move
  | createFrame
  | pushFrame
  | popFrame
  | declare
  | call
  | ret
  | push
  | pop
  | add
  | sub
  | mul
  | floorDiv
  | less
  | greater
  | equal
  | and
  | or
  | not
  | charOfInt
  | intOfChar
  | read
  | write
  | concat
  | length
  | getChar
  | setChar
  | typeOf
  | label
  | jump
  | jumpIfEqual
  | jumpIfNotEqual
  | debugWrite
  | debugDump
  deriving DecidableEq, Repr

namespace Opcode

/-- Every opcode. -/
def all : List Opcode :=
  [move, createFrame, pushFrame, popFrame, declare, call, ret, push, pop, add, sub, mul, floorDiv,
    less, greater, equal, and, or, not, charOfInt, intOfChar, read, write, concat, length, getChar,
    setChar, typeOf, label, jump, jumpIfEqual, jumpIfNotEqual, debugWrite, debugDump]

/-- The name of an opcode in documents. -/
def mnemonic : Opcode → String
  | move => "MOVE"
  | createFrame => "CREATEFRAME"
  | pushFrame => "PUSHFRAME"
  | popFrame => "POPFRAME"
  | declare => "DEFVAR"
  | call => "CALL"
  | ret => "RETURN"
  | push => "PUSHS"
  | pop => "POPS"
  | add => "ADD"
  | sub => "SUB"
  | mul => "MUL"
  | floorDiv => "IDIV"
  | less => "LT"
  | greater => "GT"
  | equal => "EQ"
  | and => "AND"
  | or => "OR"
  | not => "NOT"
  | charOfInt => "INT2CHAR"
  | intOfChar => "STRI2INT"
  | read => "READ"
  | write => "WRITE"
  | concat => "CONCAT"
  | length => "STRLEN"
  | getChar => "GETCHAR"
  | setChar => "SETCHAR"
  | typeOf => "TYPE"
  | label => "LABEL"
  | jump => "JUMP"
  | jumpIfEqual => "JUMPIFEQ"
  | jumpIfNotEqual => "JUMPIFNEQ"
  | debugWrite => "DPRINT"
  | debugDump => "BREAK"

/-- The opcode of a given name; the case of letters matters. -/
def ofMnemonic? (name : String) : Option Opcode :=
  all.find? (·.mnemonic == name)

/-- The operand positions of an opcode. -/
def signature : Opcode → List OperandKind
  | createFrame | pushFrame | popFrame | ret | debugDump => []
  | declare | pop => [.var]
  | call | label | jump => [.label]
  | push | write | debugWrite => [.symbol]
  | move | typeOf => [.var, .symbol]
  | not => [.var, .bool]
  | charOfInt => [.var, .int]
  | length => [.var, .string]
  | read => [.var, .type]
  | add | sub | mul | floorDiv => [.var, .int, .int]
  | less | greater | equal => [.var, .symbol, .symbol]
  | and | or => [.var, .bool, .bool]
  | intOfChar | getChar => [.var, .string, .int]
  | concat => [.var, .string, .string]
  | setChar => [.var, .int, .string]
  | jumpIfEqual | jumpIfNotEqual => [.label, .symbol, .symbol]

/-- The number of operands of an opcode. -/
def arity (op : Opcode) : Nat :=
  op.signature.length

/-- Whether an opcode may move the program counter. -/
def isJump (op : Opcode) : Bool :=
  [call, ret, jump, jumpIfEqual, jumpIfNotEqual].contains op

end Opcode

end FrameCode
