import FrameCode.Machine.Step

/-!
# Runs

A run starts one instruction after another until the program counter is past the last instruction or
an instruction fails.  The state after a failure can be run on: it continues with the instruction
that comes next.

- `Machine.dispatch`: starts the next instruction
- `Machine.run`: a run of at most a given number of instructions
-/

namespace FrameCode
namespace Machine

/-- Moves the program counter past the next instruction and counts the instruction. -/
def fetch (m : Machine) : Machine :=
  { m with pc := m.pc + 1, executed := m.executed + 1 }

/-- Starts the next instruction and gives it with its outcome; there is none if the program counter
is past the last instruction. -/
def dispatch (m : Machine) (p : Program) : Option (Instruction × Outcome) :=
  match p.instructions[m.pc]? with
  | none => none
  | some i => some (i, i.execute p.labels m.fetch)

/-- Runs at most a given number of instructions.  The result is a final state with the error that
ended the run, if any, or nothing if the run needs more instructions. -/
def run (p : Program) : Nat → Machine → Option (Option RuntimeError × Machine)
  | 0, _ => none
  | fuel + 1, m =>
    match m.dispatch p with
    | none => some (none, m)
    | some (_, .done after) => run p fuel after
    | some (i, .failed fault after) => some (some ⟨fault, i.order⟩, after)

end Machine
end FrameCode
