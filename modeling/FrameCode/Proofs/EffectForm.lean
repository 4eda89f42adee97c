import FrameCode.Machine.Step

/-!
# Instructions as effects

An instruction looks up all its operands before it changes anything.  So what it does can be said in
two halves: the operands come to one effect, which is computed from the state as it is, and then the
effect is applied.  An effect that fails leaves the machine as it was, except that the channel it
used keeps what has passed through it.

- `Effect`: what an instruction does
- `Effect.apply`: the outcome of an effect
- `Instruction.effect`: the effect of an instruction in a state
- `Machine.perform`: both halves together
-/

namespace FrameCode

/-! ## Effects -/

/-- What an instruction does to the machine. -/
inductive Effect where
  | skip
  | assign (target : Variable) (value : Value)
  | declare (target : Variable)
  | createFrame
  | pushFrame
  | popFrame
  | jump (position : Nat)
  /-- Jumps, and remembers where to return to. -/
  | call (position : Nat)
  | ret
  | push (value : Value)
  /-- Moves the top of the data stack into a variable. -/
  | pop (target : Variable)
  /-- Reads a line of input as a value of a type into a variable. -/
  | read (target : Variable) (tag : TypeTag)
  | write (text : String)
  /-- Writes to the diagnostics. -/
  | report (text : String)
  deriving DecidableEq

namespace Machine

/-- Takes over frames that an operation has changed, or fails with its fault. -/
def withFrames (m : Machine) : Except Fault Frames → Outcome
  | .ok frames => .done { m with frames := frames }
  | .error fault => .failed fault m

/-- Returns to the position on top of the call stack. -/
def ret (m : Machine) : Outcome :=
  match m.callStack with
  | [] => .failed .emptyCallStack m
  | position :: below => .done { m with callStack := below, pc := position }

/-- Moves the top of the data stack into a variable.  The variable is checked first. -/
def pop (m : Machine) (target : Variable) : Outcome :=
  match m.frames.checkAssignable target with
  | .error fault => .failed fault m
  | .ok () =>
    match m.dataStack with
    | [] => .failed .emptyDataStack m
    | value :: below => { m with dataStack := below }.withFrames (m.frames.assign target value)

/-- Reads a line into a variable.  The variable is checked first; a line that is not text is
consumed all the same. -/
def readLine (m : Machine) (target : Variable) (tag : TypeTag) : Outcome :=
  match m.frames.checkAssignable target with
  | .error fault => .failed fault m
  | .ok () =>
    let (line, rest) := Line.next m.input
    match Line.decode line with
    | .error failure => .failed (.channel failure) { m with input := rest }
    | .ok text =>
      { m with input := rest }.withFrames (m.frames.assign target (Value.ofLine tag text))

/-- Writes a text to the output. -/
def write (m : Machine) (text : String) : Outcome :=
  let after := { m with output := m.output.write text }
  if m.output.fits text then .done after else .failed (.channel .full) after

/-- Writes a text to the diagnostics. -/
def report (m : Machine) (text : String) : Outcome :=
  let after := { m with diagnostics := m.diagnostics.write text }
  if m.diagnostics.fits text then .done after else .failed (.channel .full) after

end Machine

namespace Effect

/-- The outcome of an effect. -/
def apply (m : Machine) : Effect → Outcome
  | skip => .done m
  | assign target value => m.withFrames (m.frames.assign target value)
  | declare target => m.withFrames (m.frames.declare target)
  | createFrame => .done { m with frames := m.frames.createTemporary }
  | pushFrame => m.withFrames m.frames.pushTemporary
  | popFrame => m.withFrames (m.frames.popLocal.map Prod.snd)
  | jump position => .done { m with pc := position }
  | call position => .done { m with callStack := m.pc :: m.callStack, pc := position }
  | ret => m.ret
  | push value => .done { m with dataStack := value :: m.dataStack }
  | pop target => m.pop target
  | read target tag => m.readLine target tag
  | write text => m.write text
  | report text => m.report text

end Effect

/-! ## Effects of instructions -/

namespace Instruction

/-- Assigns a result to the first operand. -/
def store (i : Instruction) (value : Value) : Except Fault Effect := do
  let target ← i.varAt 0
  return .assign target value

/-- The effect of integer arithmetic on the second and third operand. -/
def arithmetic (i : Instruction) (frames : Frames) (operation : Word → Word → Option Word) :
    Except Fault Effect := do
  let a ← i.wordAt frames 1
  let b ← i.wordAt frames 2
  let result ← i.orOverflow (operation a b)
  i.store (.int result)

/-- The effect of integer division; a zero divisor has a fault of its own. -/
def division (i : Instruction) (frames : Frames) : Except Fault Effect := do
  let a ← i.wordAt frames 1
  let b ← i.wordAt frames 2
  if b = 0 then
    .error .divisionByZero
  else
    let result ← i.orOverflow (Word.floorDiv? a b)
    i.store (.int result)

/-- The effect of a comparison of the second and third operand. -/
def comparison (i : Instruction) (frames : Frames) (accept : Ordering → Bool) :
    Except Fault Effect := do
  let (a, b) ← i.pairAt frames 1
  match a.compare? b with
  | some ordering => i.store (.bool (accept ordering))
  | none => .error (.malformed i.opcode)

def equality (i : Instruction) (frames : Frames) : Except Fault Effect := do
  let (a, b) ← i.pairAt frames 1
  i.store (.bool (a == b))

/-- The effect of a truth function of the second and third operand. -/
def connective (i : Instruction) (frames : Frames) (operation : Bool → Bool → Bool) :
    Except Fault Effect := do
  let a ← i.boolAt frames 1
  let b ← i.boolAt frames 2
  i.store (.bool (operation a b))

def negation (i : Instruction) (frames : Frames) : Except Fault Effect := do
  let a ← i.boolAt frames 1
  i.store (.bool (!a))

def charOfInt (i : Instruction) (frames : Frames) : Except Fault Effect := do
  let n ← i.wordAt frames 1
  match charOfWord? n with
  | some c => i.store (.string (.singleton c))
  | none => .error (.invalidCodePoint n)

def intOfChar (i : Instruction) (frames : Frames) : Except Fault Effect := do
  let s ← i.stringAt frames 1
  let index ← i.wordAt frames 2
  let c ← i.charAt s index
  i.store (.int (wordOfChar c))

def getChar (i : Instruction) (frames : Frames) : Except Fault Effect := do
  let s ← i.stringAt frames 1
  let index ← i.wordAt frames 2
  let c ← i.charAt s index
  i.store (.string (.singleton c))

def concat (i : Instruction) (frames : Frames) : Except Fault Effect := do
  let a ← i.stringAt frames 1
  let b ← i.stringAt frames 2
  i.store (.string (a ++ b))

def length (i : Instruction) (frames : Frames) : Except Fault Effect := do
  let s ← i.stringAt frames 1
  let n ← i.orOverflow (Word.ofInt? s.length)
  i.store (.int n)

/-- Replaces one character of the string in the first operand by the first character of the third
operand. -/
def setChar (i : Instruction) (frames : Frames) : Except Fault Effect := do
  let target ← i.varAt 0
  let s ← i.stringIn frames target
  let index ← i.wordAt frames 1
  let replacement ← i.stringAt frames 2
  let position ← i.indexIn s index
  match replacement.toList with
  | [] => .error .emptyReplacement
  | c :: _ => .ok (.assign target (.string (.ofList (s.toList.set position c))))

/-- The name of the type of the second operand, empty for a variable without a value. -/
def typeOf (i : Instruction) (frames : Frames) : Except Fault Effect := do
  let content ← i.contentAt frames 1
  i.store (.string (content.elim "" (·.tag.name)))

def read (i : Instruction) : Except Fault Effect := do
  let target ← i.varAt 0
  let tag ← i.typeAt 1
  return .read target tag

/-- The effect of a jump that depends on whether the second and third operand are equal.  The label
matters only if the jump is taken. -/
def conditionalJump (i : Instruction) (labels : LabelTable) (frames : Frames) (wanted : Bool) :
    Except Fault Effect := do
  let (a, b) ← i.pairAt frames 1
  if (a == b) = wanted then
    let position ← i.destination labels
    return .jump position
  else
    return .skip

/-- The report on the state of the machine. -/
def dump (i : Instruction) (m : Machine) : String :=
  i.dumpPosition m ++ (dumpFrames m ++ dumpStacks m)

/-- The effect of an instruction in a state whose program counter is already past it. -/
def effect (i : Instruction) (labels : LabelTable) (m : Machine) : Except Fault Effect :=
  match i.opcode with
  | .move => do i.store (← i.valueAt m.frames 1)
  | .createFrame => .ok .createFrame
  | .pushFrame => .ok .pushFrame
  | .popFrame => .ok .popFrame
  | .declare => do return .declare (← i.varAt 0)
  | .call => do return .call (← i.destination labels)
  | .ret => .ok .ret
  | .push => do return .push (← i.valueAt m.frames 0)
  | .pop => do return .pop (← i.varAt 0)
  | .add => i.arithmetic m.frames Word.add?
  | .sub => i.arithmetic m.frames Word.sub?
  | .mul => i.arithmetic m.frames Word.mul?
  | .floorDiv => i.division m.frames
  | .less => i.comparison m.frames Ordering.isLT
  | .greater => i.comparison m.frames Ordering.isGT
  | .equal => i.equality m.frames
  | .and => i.connective m.frames Bool.and
  | .or => i.connective m.frames Bool.or
  | .not => i.negation m.frames
  | .charOfInt => i.charOfInt m.frames
  | .intOfChar => i.intOfChar m.frames
  | .read => i.read
  | .write => do return .write (← i.valueAt m.frames 0).text
  | .concat => i.concat m.frames
  | .length => i.length m.frames
  | .getChar => i.getChar m.frames
  | .setChar => i.setChar m.frames
  | .typeOf => i.typeOf m.frames
  | .label => .ok .skip
  | .jump => do return .jump (← i.destination labels)
  | .jumpIfEqual => i.conditionalJump labels m.frames true
  | .jumpIfNotEqual => i.conditionalJump labels m.frames false
  | .debugWrite => do return .report (← i.valueAt m.frames 0).text
  | .debugDump => .ok (.report (i.dump m))

end Instruction

/-! ## Computations of effects -/

namespace Machine

/-- Applies the effect that a computation comes to, or fails with its fault. -/
def perform (m : Machine) : Except Fault Effect → Outcome
  | .ok e => e.apply m
  | .error fault => .failed fault m

end Machine

end FrameCode
