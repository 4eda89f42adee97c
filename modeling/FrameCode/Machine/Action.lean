import FrameCode.Line
import FrameCode.Machine

/-!
# Actions on a machine

An action goes through the machine step by step, and each step finds the machine as the steps before
it have left it.  A step that fails ends the action, and what has been done before stays done.

- `Action`: a computation on a machine that may fail
- `Action.check`, `Action.look`: steps that leave the machine alone
- `Action.assign`, `Action.pushFrame`, `Action.popValue` and so on: steps that change one part of it
- `Action.outcome`: how an action ends
-/

namespace FrameCode

/-- A computation on a machine.  A failure keeps the machine as it is by then. -/
abbrev Action (α : Type) : Type := EStateM Fault Machine α

namespace Action

variable {α : Type}

/-! ## Looking -/

/-- A computation that takes no part in the machine. -/
def check : Except Fault α → Action α
  | .ok a => pure a
  | .error fault => throw fault

/-- A computation from the machine as it is. -/
def look (f : Machine → Except Fault α) : Action α := do
  check (f (← get))

/-! ## Frames -/

/-- An operation on the frames. -/
def onFrames (change : Frames → Except Fault Frames) : Action Unit := do
  let frames ← look fun m => change m.frames
  modify fun m => { m with frames := frames }

def assign (target : Variable) (value : Value) : Action Unit :=
  onFrames (·.assign target value)

def declare (target : Variable) : Action Unit :=
  onFrames (·.declare target)

def createFrame : Action Unit :=
  modify fun m => { m with frames := m.frames.createTemporary }

/-- Takes the temporary frame away, if there is one; there is none afterwards. -/
def takeTemporary : Action (Option Frame) :=
  modifyGet fun m => (m.frames.temporary, { m with frames := { m.frames with temporary := none } })

/-- Puts a frame on top of the local frames. -/
def pushLocal (frame : Frame) : Action Unit :=
  modify fun m => { m with frames := { m.frames with locals := frame :: m.frames.locals } }

/-- Moves the temporary frame onto the local frames.  It is taken away before it is known whether
there is one. -/
def pushFrame : Action Unit := do
  match ← takeTemporary with
  | none => throw (.undefinedFrame .temporary)
  | some frame => pushLocal frame

def popFrame : Action Unit := do
  let (_, frames) ← look fun m => m.frames.popLocal
  modify fun m => { m with frames := frames }

/-! ## Positions -/

def goTo (position : Nat) : Action Unit :=
  modify fun m => { m with pc := position }

/-- Remembers the position of the next instruction. -/
def pushPosition : Action Unit :=
  modify fun m => { m with callStack := m.pc :: m.callStack }

/-- Takes a position off the call stack. -/
def popPosition : Action Nat := do
  match (← get).callStack with
  | [] => throw .emptyCallStack
  | position :: below =>
    modify fun m => { m with callStack := below }
    return position

/-! ## Values -/

def pushValue (value : Value) : Action Unit :=
  modify fun m => { m with dataStack := value :: m.dataStack }

/-- Takes a value off the data stack. -/
def popValue : Action Value := do
  match (← get).dataStack with
  | [] => throw .emptyDataStack
  | value :: below =>
    modify fun m => { m with dataStack := below }
    return value

/-! ## Channels -/

/-- Takes the next line off the input. -/
def takeLine : Action (List UInt8) :=
  modifyGet fun m => ((Line.next m.input).1, { m with input := (Line.next m.input).2 })

/-- Takes the next line off the input and gives its text.  A line that is not text is taken all the
same. -/
def nextLine : Action (Option String) := do
  let line ← takeLine
  check ((Line.decode line).mapError .channel)

/-- Appends a text to a channel of the machine.  What fits is kept even if the rest does not. -/
def append (channel : Machine → Channel) (update : Machine → Channel → Machine) (text : String) :
    Action Unit := do
  let whole ← modifyGet fun m => ((channel m).fits text, update m ((channel m).write text))
  if whole then pure () else throw (.channel .full)

/-- Writes a text to the output. -/
def print : String → Action Unit :=
  append Machine.output fun m output => { m with output := output }

/-- Writes a text to the diagnostics. -/
def report : String → Action Unit :=
  append Machine.diagnostics fun m diagnostics => { m with diagnostics := diagnostics }

/-! ## Outcomes -/

/-- How an action ends on a machine. -/
def outcome (action : Action Unit) (m : Machine) : Outcome :=
  match action m with
  | .ok () after => .done after
  | .error fault after => .failed fault after

end Action

end FrameCode
