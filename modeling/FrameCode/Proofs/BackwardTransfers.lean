import FrameCode.Proofs.ControlFlow
import FrameCode.Proofs.ErrorLocation

/-!
# How long a run can be

A run has no bound of its own.  But as long as the control goes forward, every instruction takes it
past at least one position, so that it comes to the end of the program; only an instruction that
takes it back can make it go through the program once more.

- `Machine.backward`: how many instructions have taken the control back
- `Machine.Log.length_le`: an instruction is paid for by the positions it passes, or by going back
- `Program.Forward`: no instruction can take the control back
- `Program.executed_le_backward`: the bound, and that programs without a way back come to an end
-/

namespace FrameCode

namespace Machine

variable {p : Program} {start m after : Machine} {i : Instruction} {events : List Event}

/-! ## Instructions that go back -/

/-- How many instructions have taken the control to their own position or before it. -/
def backward (events : List Event) : Nat :=
  events.countP fun event => event.outcome.machine.pc ≤ event.before.pc

theorem backward_append (events : List Event) (event : Event) :
    backward (events ++ [event]) =
      backward events + if event.outcome.machine.pc ≤ event.before.pc then 1 else 0 := by
  simp [backward, List.countP_append, List.countP_singleton]

theorem Log.executed (h : Log p start events m) : m.executed = start.executed + events.length := by
  induction h with
  | nil => rfl
  | snoc _ hdispatch ih =>
    have hlast := Executes.executed ⟨_, hdispatch, rfl⟩
    rw [hlast, ih, List.length_append]
    rfl

/-- Every instruction passes a position, and one that goes back does so at most as many times as the
program has positions. -/
theorem Log.length_le (h : Log p start events m) :
    start.pc + events.length ≤ backward events * p.size + m.pc := by
  induction h with
  | nil => simp [backward]
  | @snoc events m i outcome _ hdispatch ih =>
    have hinside : m.pc < p.size :=
      Program.lt_size_of_getElem? (dispatch_eq_some_iff.1 hdispatch).1
    have hlater : start.pc + (events.length + 1) ≤ backward events * p.size + (m.pc + 1) :=
      Nat.succ_le_succ ih
    rw [backward_append, List.length_append, List.length_singleton]
    by_cases hback : outcome.machine.pc ≤ m.pc
    · -- Going back pays for the whole program at once.
      rw [if_pos hback]
      calc
        start.pc + (events.length + 1) ≤ backward events * p.size + (m.pc + 1) := hlater
        _ ≤ backward events * p.size + p.size := Nat.add_le_add_left hinside _
        _ = (backward events + 1) * p.size := (Nat.succ_mul _ _).symm
        _ ≤ (backward events + 1) * p.size + outcome.machine.pc := Nat.le_add_right _ _
    · -- Going forward passes the position of the instruction at least.
      rw [if_neg hback]
      calc
        start.pc + (events.length + 1) ≤ backward events * p.size + (m.pc + 1) := hlater
        _ ≤ backward events * p.size + outcome.machine.pc :=
          Nat.add_le_add_left (Nat.lt_of_not_le hback) _

end Machine

/-! ## Programs without a way back -/

/-- A program has no calls, and all its jumps lead to later positions. -/
def Program.Forward (p : Program) : Prop :=
  ∀ position i, p.instructions[position]? = some i → i.opcode ≠ .call ∧
    (i.opcode ∈ [.jump, .jumpIfEqual, .jumpIfNotEqual] → ∀ name target,
      i.operands[0]? = some (.label name) → p.labels.position? name = some target →
        position < target)

namespace Machine

variable {p : Program} {start m after : Machine} {i : Instruction} {events : List Event}

/-- In such a program, an instruction takes the control forward.  The call stack stays empty, so
there is nowhere to return to. -/
theorem Executes.forward (hp : p.Forward) (h : Executes p m i after) (hm : m.callStack = []) :
    m.pc < after.pc ∧ after.callStack = [] := by
  rcases hp m.pc i h.instruction with ⟨hcall, hjump⟩
  rcases h.cases with ⟨e, hperforms, hplace⟩ | hretains
  · cases hplace with
    | jump position =>
      cases hperforms with
      | jump _ hop hposition =>
        rcases Instruction.destination_eq_ok_iff.1 hposition with ⟨name, hname, htarget⟩
        exact ⟨hjump hop name position hname htarget, hm⟩
    | call position =>
      cases hperforms with
      | call _ hop _ => exact absurd hop hcall
    | ret position below hstack => cases hm.symm.trans hstack
    | _ => exact ⟨Nat.lt_succ_self _, hm⟩
  · refine ⟨?_, hretains.callStack.trans hm⟩
    rw [hretains.pc]
    exact Nat.lt_succ_self _

theorem Log.forward (hp : p.Forward) (h : Log p start events m) (hstart : start.callStack = []) :
    m.callStack = [] ∧ backward events = 0 := by
  induction h with
  | nil => exact ⟨hstart, rfl⟩
  | snoc _ hdispatch ih =>
    rcases ih with ⟨hm, hnone⟩
    rcases Executes.forward hp ⟨_, hdispatch, rfl⟩ hm with ⟨hpc, hafter⟩
    refine ⟨hafter, ?_⟩
    rw [backward_append, hnone, if_neg (Nat.not_le_of_lt hpc)]

end Machine

namespace Program

open Machine

variable {p : Program}

theorem executed_le_of_log {input : List UInt8} {output diagnostics : Channel}
    {events : List Event} {m : Machine} (hlabels : p.LabelsInside)
    (h : Log p (.initial input output diagnostics) events m) :
    m.executed ≤ (backward events + 1) * p.size := by
  have hcontrolled : m.pc ≤ p.size := (h.reaches.controlled hlabels).pc
  calc
    m.executed = 0 + events.length := h.executed
    _ ≤ backward events * p.size + m.pc := h.length_le
    _ ≤ backward events * p.size + p.size := Nat.add_le_add_left hcontrolled _
    _ = (backward events + 1) * p.size := (Nat.succ_mul _ _).symm

/-- A program without a way back starts every instruction at most once, on every input. -/
theorem exists_run_of_forward (hlabels : p.LabelsInside) (hp : p.Forward) (input : List UInt8)
    (output diagnostics : Channel) :
    ∃ error last after,
      run p (p.size + 1) (.initial input output diagnostics) = some (error, after) ∧
      Reaches p (.initial input output diagnostics) last ∧ last.Ends p error after ∧
      after.executed ≤ p.size := by
  have hbound : ∀ {events m}, Log p (.initial input output diagnostics) events m →
      m.executed ≤ p.size := by
    intro events m hlog
    have hle := executed_le_of_log hlabels hlog
    rwa [(hlog.forward hp rfl).2, Nat.zero_add, Nat.one_mul] at hle
  cases hrun : run p (p.size + 1) (.initial input output diagnostics) with
  | none =>
    -- Then it would have started one instruction more than there are positions.
    rcases exists_log_of_run_eq_none hrun with ⟨events, after, hlog, hlength⟩
    have hexecuted : after.executed = p.size + 1 := by
      rw [hlog.executed, hlength]
      exact Nat.zero_add _
    exact absurd (hexecuted ▸ hbound hlog) (Nat.not_succ_le_self _)
  | some result =>
    rcases result with ⟨error, after⟩
    rcases run_ends hrun with ⟨last, hreaches, hends⟩
    rcases (hreaches.trans hends.reaches).exists_log with ⟨events, hlog⟩
    exact ⟨error, last, after, rfl, hreaches, hends, hbound hlog⟩

/-- In any number of runs, the instructions that have been started are at most those of the program,
once more for each instruction that has taken the control back.  So a program without calls, whose
jumps all lead to later positions, comes to an end after at most as many instructions as it has, on
every input: the control is behind its last instruction then, or an instruction has failed. -/
theorem executed_le_backward (instructions : List Instruction) (p : Program)
    (hp : p = ofInstructions instructions) (input : List UInt8) (output diagnostics : Channel) :
    (∀ events m, Log p (.initial input output diagnostics) events m →
      m.executed = events.length ∧ m.executed ≤ (backward events + 1) * p.size) ∧
    (∀ results m, Calls p (.initial input output diagnostics) results m →
      ∃ events, Log p (.initial input output diagnostics) events m) ∧
    (p.Forward → ∃ error last after,
      run p (p.size + 1) (.initial input output diagnostics) = some (error, after) ∧
        Reaches p (.initial input output diagnostics) last ∧ last.Ends p error after ∧
        after.executed ≤ p.size) := by
  have hlabels : p.LabelsInside := hp ▸ labelsInside_ofInstructions instructions
  refine ⟨?_, ?_, ?_⟩
  · intro events m hlog
    exact ⟨hlog.executed.trans (Nat.zero_add _), executed_le_of_log hlabels hlog⟩
  · intro results m hcalls
    exact hcalls.reaches.exists_log
  · intro hforward
    exact exists_run_of_forward hlabels hforward input output diagnostics

/-- A jump back to the label before it has been taken once after three instructions, and a jump to
the label behind it leads to the end. -/
theorem executed_le_backward_once :
    (∃ (p : Program) (events : List Event) (m : Machine),
      p = ofInstructions [⟨.label, .ofInt 1, [.label "a"]⟩, ⟨.jump, .ofInt 2, [.label "a"]⟩] ∧
      Log p (.initial [] (.ofRoom none) (.ofRoom none)) events m ∧ events.length = 3 ∧
      backward events = 1 ∧ m.executed ≤ (backward events + 1) * p.size) ∧
    ∃ (p : Program) (error : Option RuntimeError) (last after : Machine),
      p = ofInstructions [⟨.jump, .ofInt 1, [.label "a"]⟩, ⟨.label, .ofInt 2, [.label "a"]⟩] ∧
      p.Forward ∧ run p (p.size + 1) (.initial [] (.ofRoom none) (.ofRoom none)) =
        some (error, after) ∧
      Reaches p (.initial [] (.ofRoom none) (.ofRoom none)) last ∧ last.Ends p error after ∧
      after.executed ≤ p.size := by
  constructor
  · have hp : (⟨#[⟨.label, .ofInt 1, [.label "a"]⟩, ⟨.jump, .ofInt 2, [.label "a"]⟩],
          LabelTable.empty.insert "a" 0⟩ : Program) =
        ofInstructions [⟨.label, .ofInt 1, [.label "a"]⟩, ⟨.jump, .ofInt 2, [.label "a"]⟩] :=
      (ofInstructions_eq_of_ascending (by decide +kernel)).symm
    have hlog : Log ⟨#[⟨.label, .ofInt 1, [.label "a"]⟩, ⟨.jump, .ofInt 2, [.label "a"]⟩],
        LabelTable.empty.insert "a" 0⟩ (.initial [] (.ofRoom none) (.ofRoom none)) _ _ :=
      ((Log.nil.snoc rfl).snoc rfl).snoc rfl
    exact ⟨_, _, _, hp, hlog, rfl, rfl, ((executed_le_backward _ _ hp _ _ _).1 _ _ hlog).2⟩
  · have hp : (⟨#[⟨.jump, .ofInt 1, [.label "a"]⟩, ⟨.label, .ofInt 2, [.label "a"]⟩],
          LabelTable.empty.insert "a" 1⟩ : Program) =
        ofInstructions [⟨.jump, .ofInt 1, [.label "a"]⟩, ⟨.label, .ofInt 2, [.label "a"]⟩] :=
      (ofInstructions_eq_of_ascending (by decide +kernel)).symm
    have hforward : Forward ⟨#[⟨.jump, .ofInt 1, [.label "a"]⟩, ⟨.label, .ofInt 2, [.label "a"]⟩],
        LabelTable.empty.insert "a" 1⟩ := by
      intro position i hi
      rcases position with _ | _ | position
      · cases hi
        refine ⟨by decide, ?_⟩
        intro _ name target hname htarget
        cases hname
        cases htarget
        decide
      · cases hi
        exact ⟨by decide, fun h => absurd h (by decide)⟩
      · cases hi
    rcases (executed_le_backward _ _ hp [] (.ofRoom none) (.ofRoom none)).2.2 hforward with
      ⟨error, last, after, hrun, hreaches, hends, hexecuted⟩
    exact ⟨_, error, last, after, hp, hforward, hrun, hreaches, hends, hexecuted⟩

end Program

end FrameCode
