import FrameCode.Fault
import FrameCode.Frame

/-!
# The frames of a running program

The global frame always exists.  Local frames form a stack, and only the top one can be used.  The
temporary frame exists once it has been created and until it is pushed onto the stack.

- `Frames`: all frames
- `Frames.frame?`, `Frames.modifyFrame`: the frame of a scope, to be read and to be changed
- `Frames.read`, `Frames.assign`, `Frames.declare`: variables
- `Frames.createTemporary`, `Frames.pushTemporary`, `Frames.popLocal`: frames
- `Frames.render`: the dump
-/

namespace FrameCode

/-- All frames of a running program; the local frames have the top one first. -/
structure Frames where
  global : Frame
  locals : List Frame
  temporary : Option Frame
  deriving DecidableEq

namespace Frames

/-- The frames at the start: an empty global frame and nothing else. -/
def initial : Frames where
  global := .empty
  locals := []
  temporary := none

/-- The frame of a scope, if it exists. -/
def frame? (frames : Frames) : Scope → Option Frame
  | .global => some frames.global
  | .current => frames.locals.head?
  | .temporary => frames.temporary

/-- Changes the frame of a scope where it stands, if it exists and can be changed so. -/
def modifyFrame (frames : Frames) (scope : Scope) (change : Frame → Except Fault Frame) :
    Except Fault Frames :=
  match scope with
  | .global => do
    let frame ← change frames.global
    return { frames with global := frame }
  | .current =>
    match frames.locals with
    | [] => .error (.undefinedFrame .current)
    | top :: below => do
      let frame ← change top
      return { frames with locals := frame :: below }
  | .temporary =>
    match frames.temporary with
    | none => .error (.undefinedFrame .temporary)
    | some current => do
      let frame ← change current
      return { frames with temporary := some frame }

/-! ## Variables -/

/-- The frame of a variable. -/
def frameOf (frames : Frames) (v : Variable) : Except Fault Frame :=
  match frames.frame? v.scope with
  | none => .error (.undefinedFrame v.scope)
  | some frame => .ok frame

/-- The content of a declared variable. -/
def read (frames : Frames) (v : Variable) : Except Fault (Option Value) := do
  let frame ← frames.frameOf v
  match frame.slot? v.name with
  | none => .error (.undefinedVariable v)
  | some content => .ok content

/-- Fails unless a variable can be assigned. -/
def checkAssignable (frames : Frames) (v : Variable) : Except Fault Unit := do
  let _ ← frames.read v
  return ()

/-- Gives a declared variable a value. -/
def assign (frames : Frames) (v : Variable) (value : Value) : Except Fault Frames :=
  frames.modifyFrame v.scope fun frame =>
    if frame.contains v.name then
      .ok (frame.put v.name (some value))
    else
      .error (.undefinedVariable v)

/-- Declares a variable without a value. -/
def declare (frames : Frames) (v : Variable) : Except Fault Frames :=
  frames.modifyFrame v.scope fun frame =>
    if frame.contains v.name then
      .error (.redefinition v)
    else
      .ok (frame.put v.name none)

/-! ## Frames -/

/-- Replaces the temporary frame by an empty one. -/
def createTemporary (frames : Frames) : Frames :=
  { frames with temporary := some .empty }

/-- Moves the temporary frame onto the stack of local frames. -/
def pushTemporary (frames : Frames) : Except Fault Frames :=
  match frames.temporary with
  | none => .error (.undefinedFrame .temporary)
  | some frame => .ok { frames with locals := frame :: frames.locals, temporary := none }

/-- Takes the top local frame off the stack. -/
def popLocal (frames : Frames) : Except Fault (Frame × Frames) :=
  match frames.locals with
  | [] => .error (.undefinedFrame .current)
  | frame :: below => .ok (frame, { frames with locals := below })

/-! ## Dump -/

/-- The text of a frame that may not exist. -/
def renderFrame : Option Frame → String
  | none => "<undefined>"
  | some frame => frame.render

/-- The text of the local frames: the top one and their number. -/
def renderLocals (locals : List Frame) : String :=
  match locals with
  | [] => "<undefined>"
  | top :: _ => s!"{top.render} (depth {locals.length})"

/-- The dump of all frames. -/
def render (frames : Frames) : String :=
  s!"GF: {frames.global.render}\n" ++
  s!"LF: {renderLocals frames.locals}\n" ++
  s!"TF: {renderFrame frames.temporary}"

end Frames

end FrameCode
