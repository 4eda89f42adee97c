import FrameCode.Channel
import FrameCode.Frames
import FrameCode.Program

/-!
# Machine states

- `Machine`: the state of a running program
- `Machine.initial`: the state before the first instruction
- `Outcome`: a new state, with a fault if the instruction failed
-/

namespace FrameCode

/-- The state of a running program; both stacks have their top first. -/
structure Machine where
  frames : Frames
  /-- The positions to return to. -/
  callStack : List Nat
  dataStack : List Value
  /-- The position of the next instruction. -/
  pc : Nat
  /-- How many instructions have been started.  A counter of 64 bits would differ only after
  `2 ^ 64` instructions, which is out of reach. -/
  executed : Nat
  /-- The input that has not been read. -/
  input : List UInt8
  output : Channel
  diagnostics : Channel

namespace Machine

/-- The state before the first instruction. -/
def initial (input : List UInt8) (output diagnostics : Channel) : Machine where
  frames := .initial
  callStack := []
  dataStack := []
  pc := 0
  executed := 0
  input := input
  output := output
  diagnostics := diagnostics

end Machine

/-- How an instruction ends. -/
inductive Outcome where
  | done (after : Machine)
  /-- The instruction failed; the state keeps what the instruction did before that. -/
  | failed (fault : Fault) (after : Machine)

namespace Outcome

/-- The state after an instruction, whether it failed or not. -/
def machine : Outcome → Machine
  | done after => after
  | failed _ after => after

/-- The fault of an instruction that failed. -/
def fault? : Outcome → Option Fault
  | done _ => none
  | failed fault _ => some fault

end Outcome

end FrameCode
