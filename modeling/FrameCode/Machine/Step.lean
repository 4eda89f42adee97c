import FrameCode.Machine.Action
import FrameCode.Machine.Operands

/-!
# Execution of one instruction

An instruction looks up its operands one after another, and then it acts on the machine.  Whatever
fails first ends it.

- `Instruction.dumpPosition`, `Instruction.dumpFrames`, `Instruction.dumpStacks`: the parts of a
  report on the state of the machine
- `Action.ofInstruction`: the action of an instruction
- `Instruction.execute`: the outcome
-/

namespace FrameCode

namespace Instruction

/-! ## Results and strings -/

/-- A result that may not fit a word. -/
def orOverflow (i : Instruction) : Option Word → Except Fault Word
  | some n => .ok n
  | none => .error (.overflow i.opcode)

/-- An index into a string, which must be below its length. -/
def indexIn (i : Instruction) (s : String) (index : Word) : Except Fault Nat :=
  if 0 ≤ index.toInt ∧ index.toInt < s.length then
    .ok index.toInt.toNat
  else
    .error (.indexOutOfRange i.opcode index s.length)

/-- The character of a string at an index. -/
def charAt (i : Instruction) (s : String) (index : Word) : Except Fault Char := do
  let position ← i.indexIn s index
  match s.toList[position]? with
  | some c => .ok c
  | none => .error (.malformed i.opcode)

/-- The character with a given code point. -/
def charOfWord? (n : Word) : Option Char :=
  if 0 ≤ n.toInt ∧ n.toInt.toNat.isValidChar then some (Char.ofNat n.toInt.toNat) else none

/-- The code point of a character. -/
def wordOfChar (c : Char) : Word :=
  Int64.ofNat c.toNat

/-- The string in a variable that is to be changed. -/
def stringIn (i : Instruction) (frames : Frames) (v : Variable) : Except Fault String := do
  match ← frames.read v with
  | some (.string s) => .ok s
  | some other => .error (.wrongType i.opcode .string other.tag)
  | none => .error (.unassigned v)

/-! ## Labels and dumps -/

/-- The position of the label in the first operand. -/
def destination (i : Instruction) (labels : LabelTable) : Except Fault Nat := do
  let name ← i.labelAt 0
  match labels.position? name with
  | some position => .ok position
  | none => .error (.undefinedLabel name)

/-- The line of a dump on the instruction.  Before an instruction is executed the program counter
has been moved past it, so it is not zero. -/
def dumpPosition (i : Instruction) (m : Machine) : String :=
  s!"BREAK at position {m.pc - 1} (order {i.order.render}), " ++
  s!"{m.executed} instruction(s) executed\n"

/-- The lines of a dump on the frames. -/
def dumpFrames (m : Machine) : String :=
  s!"{m.frames.render}\n"

/-- The line of a dump on the stacks. -/
def dumpStacks (m : Machine) : String :=
  s!"call stack depth {m.callStack.length}, data stack depth {m.dataStack.length}\n"

end Instruction

namespace Action

/-- Assigns a result to the first operand. -/
def store (i : Instruction) (value : Value) : Action Unit := do
  let target ← check (i.varAt 0)
  assign target value

/-! ## Frames and stacks -/

def move (i : Instruction) : Action Unit := do
  let value ← look (i.valueAt ·.frames 1)
  store i value

def define (i : Instruction) : Action Unit := do
  let target ← check (i.varAt 0)
  declare target

def call (labels : LabelTable) (i : Instruction) : Action Unit := do
  let position ← check (i.destination labels)
  pushPosition
  goTo position

def ret : Action Unit := do
  let position ← popPosition
  goTo position

def push (i : Instruction) : Action Unit := do
  let value ← look (i.valueAt ·.frames 0)
  pushValue value

/-- Moves the top of the data stack into a variable.  The variable is checked first. -/
def pop (i : Instruction) : Action Unit := do
  let target ← check (i.varAt 0)
  look (·.frames.checkAssignable target)
  let value ← popValue
  assign target value

/-! ## Arithmetic, relations and logic -/

/-- Integer arithmetic on the second and third operand. -/
def arithmetic (i : Instruction) (operation : Word → Word → Option Word) : Action Unit := do
  let a ← look (i.wordAt ·.frames 1)
  let b ← look (i.wordAt ·.frames 2)
  let result ← check (i.orOverflow (operation a b))
  store i (.int result)

/-- Integer division; a zero divisor has a fault of its own. -/
def division (i : Instruction) : Action Unit := do
  let a ← look (i.wordAt ·.frames 1)
  let b ← look (i.wordAt ·.frames 2)
  if b = 0 then
    throw .divisionByZero
  else
    let result ← check (i.orOverflow (Word.floorDiv? a b))
    store i (.int result)

/-- A comparison of the second and third operand. -/
def comparison (i : Instruction) (accept : Ordering → Bool) : Action Unit := do
  let (a, b) ← look (i.pairAt ·.frames 1)
  match a.compare? b with
  | some ordering => store i (.bool (accept ordering))
  | none => throw (.malformed i.opcode)

def equality (i : Instruction) : Action Unit := do
  let (a, b) ← look (i.pairAt ·.frames 1)
  store i (.bool (a == b))

/-- A truth function of the second and third operand. -/
def connective (i : Instruction) (operation : Bool → Bool → Bool) : Action Unit := do
  let a ← look (i.boolAt ·.frames 1)
  let b ← look (i.boolAt ·.frames 2)
  store i (.bool (operation a b))

def negation (i : Instruction) : Action Unit := do
  let a ← look (i.boolAt ·.frames 1)
  store i (.bool (!a))

/-! ## Strings and types -/

def charOfInt (i : Instruction) : Action Unit := do
  let n ← look (i.wordAt ·.frames 1)
  match Instruction.charOfWord? n with
  | some c => store i (.string (.singleton c))
  | none => throw (.invalidCodePoint n)

def intOfChar (i : Instruction) : Action Unit := do
  let s ← look (i.stringAt ·.frames 1)
  let index ← look (i.wordAt ·.frames 2)
  let c ← check (i.charAt s index)
  store i (.int (Instruction.wordOfChar c))

def concat (i : Instruction) : Action Unit := do
  let a ← look (i.stringAt ·.frames 1)
  let b ← look (i.stringAt ·.frames 2)
  store i (.string (a ++ b))

def length (i : Instruction) : Action Unit := do
  let s ← look (i.stringAt ·.frames 1)
  let n ← check (i.orOverflow (Word.ofInt? s.length))
  store i (.int n)

def getChar (i : Instruction) : Action Unit := do
  let s ← look (i.stringAt ·.frames 1)
  let index ← look (i.wordAt ·.frames 2)
  let c ← check (i.charAt s index)
  store i (.string (.singleton c))

/-- Replaces one character of the string in the first operand by the first character of the third
operand. -/
def setChar (i : Instruction) : Action Unit := do
  let target ← check (i.varAt 0)
  let s ← look (i.stringIn ·.frames target)
  let index ← look (i.wordAt ·.frames 1)
  let replacement ← look (i.stringAt ·.frames 2)
  let position ← check (i.indexIn s index)
  match replacement.toList with
  | [] => throw .emptyReplacement
  | c :: _ => assign target (.string (.ofList (s.toList.set position c)))

/-- Stores the name of the type of the second operand, empty for a variable without a value. -/
def typeOf (i : Instruction) : Action Unit := do
  let content ← look (i.contentAt ·.frames 1)
  store i (.string (content.elim "" (·.tag.name)))

/-! ## Input, output and control -/

/-- Reads a line into a variable.  The variable is checked before the line is taken. -/
def read (i : Instruction) : Action Unit := do
  let target ← check (i.varAt 0)
  let tag ← check (i.typeAt 1)
  look (·.frames.checkAssignable target)
  let line ← nextLine
  assign target (Value.ofLine tag line)

def write (i : Instruction) : Action Unit := do
  let value ← look (i.valueAt ·.frames 0)
  print value.text

def jump (labels : LabelTable) (i : Instruction) : Action Unit := do
  let position ← check (i.destination labels)
  goTo position

/-- Jumps if the second and third operand are equal, or if they are not.  The label matters only if
the jump is taken. -/
def conditionalJump (labels : LabelTable) (i : Instruction) (wanted : Bool) : Action Unit := do
  let (a, b) ← look (i.pairAt ·.frames 1)
  if (a == b) = wanted then jump labels i else pure ()

def debugWrite (i : Instruction) : Action Unit := do
  let value ← look (i.valueAt ·.frames 0)
  report value.text

/-- Reports on the state of the machine, in three parts. -/
def debugDump (i : Instruction) : Action Unit := do
  report (i.dumpPosition (← get))
  report (Instruction.dumpFrames (← get))
  report (Instruction.dumpStacks (← get))

/-! ## Dispatch -/

/-- The action of an instruction. -/
def ofInstruction (labels : LabelTable) (i : Instruction) : Action Unit :=
  match i.opcode with
  | .move => move i
  | .createFrame => createFrame
  | .pushFrame => pushFrame
  | .popFrame => popFrame
  | .declare => define i
  | .call => call labels i
  | .ret => ret
  | .push => push i
  | .pop => pop i
  | .add => arithmetic i Word.add?
  | .sub => arithmetic i Word.sub?
  | .mul => arithmetic i Word.mul?
  | .floorDiv => division i
  | .less => comparison i Ordering.isLT
  | .greater => comparison i Ordering.isGT
  | .equal => equality i
  | .and => connective i Bool.and
  | .or => connective i Bool.or
  | .not => negation i
  | .charOfInt => charOfInt i
  | .intOfChar => intOfChar i
  | .read => read i
  | .write => write i
  | .concat => concat i
  | .length => length i
  | .getChar => getChar i
  | .setChar => setChar i
  | .typeOf => typeOf i
  | .label => pure ()
  | .jump => jump labels i
  | .jumpIfEqual => conditionalJump labels i true
  | .jumpIfNotEqual => conditionalJump labels i false
  | .debugWrite => debugWrite i
  | .debugDump => debugDump i

end Action

/-- Executes an instruction in a state whose program counter is already past it. -/
def Instruction.execute (i : Instruction) (labels : LabelTable) (m : Machine) : Outcome :=
  (Action.ofInstruction labels i).outcome m

end FrameCode
