import FrameCode.Proofs.Arrangement
import FrameCode.Proofs.Transitions

/-!
# Control stays inside the program

The program counter never leaves the program by more than one position, and only positions behind
calls are on the call stack.  Every instruction keeps this, whether it succeeds or fails, so it
holds in every state that can be reached, also by runs after a failure.

- `Program.LabelsInside`: the labels of a program are positions of its instructions
- `Machine.Controlled`: the invariant
- `Machine.Executes.controlled`: every instruction keeps it
- `Program.reaches_controlled`: it holds in every state that is reached, and a run that succeeds
  ends at the end of the program
-/

namespace FrameCode

namespace Program

variable {p : Program}

/-- Every label is the position of an instruction. -/
def LabelsInside (p : Program) : Prop :=
  ∀ name position, p.labels.position? name = some position → position < p.size

theorem lt_size_of_getElem? {position : Nat} {i : Instruction}
    (h : p.instructions[position]? = some i) : position < p.size := by
  rcases Array.getElem?_eq_some_iff.1 h with ⟨hlt, -⟩
  exact hlt

theorem labelsInside_ofInstructions (instructions : List Instruction) :
    (ofInstructions instructions).LabelsInside := by
  intro name position hposition
  rcases (position?_ofInstructions_iff.1 hposition).1 with ⟨i, hi, -⟩
  exact lt_size_of_getElem? hi

end Program

namespace Machine

variable {p : Program} {m after : Machine} {i : Instruction}

/-- A position stands right behind a call. -/
def ReturnsTo (p : Program) (position : Nat) : Prop :=
  1 ≤ position ∧ position ≤ p.size ∧
    ∃ i, p.instructions[position - 1]? = some i ∧ i.opcode = .call

/-- The program counter is inside the program or at its end, and the call stack holds positions
behind calls. -/
structure Controlled (p : Program) (m : Machine) : Prop where
  pc : m.pc ≤ p.size
  callStack : ∀ position ∈ m.callStack, ReturnsTo p position

theorem controlled_initial (input : List UInt8) (output diagnostics : Channel) :
    Controlled p (.initial input output diagnostics) where
  pc := Nat.zero_le _
  callStack := fun _ hposition => nomatch hposition

/-- Every instruction keeps the control inside the program. -/
theorem Executes.controlled (hlabels : p.LabelsInside) (h : Executes p m i after)
    (hm : m.Controlled p) : after.Controlled p := by
  have hinside : m.pc < p.size := Program.lt_size_of_getElem? h.instruction
  -- A failure counts as the first case: the control goes on behind the instruction.
  cases h.transfers with
  | next hpc hstack =>
    refine ⟨?_, hstack ▸ hm.callStack⟩
    rw [hpc]
    exact hinside
  | jump _ name hposition hstack =>
    have hlt : after.pc < p.size := hlabels name after.pc hposition
    exact ⟨Nat.le_of_lt hlt, hstack ▸ hm.callStack⟩
  | call hop name hposition hstack =>
    have hlt : after.pc < p.size := hlabels name after.pc hposition
    have hreturn : ReturnsTo p (m.pc + 1) :=
      ⟨Nat.le_add_left 1 m.pc, hinside, i, h.instruction, hop⟩
    refine ⟨Nat.le_of_lt hlt, ?_⟩
    rw [hstack]
    exact List.forall_mem_cons.2 ⟨hreturn, hm.callStack⟩
  | ret _ hstack =>
    have hstack' : ∀ position ∈ after.pc :: after.callStack, ReturnsTo p position :=
      hstack ▸ hm.callStack
    rcases List.forall_mem_cons.1 hstack' with ⟨hreturn, hbelow⟩
    exact ⟨hreturn.2.1, hbelow⟩

theorem Step.controlled (hlabels : p.LabelsInside) (h : Step p m after) (hm : m.Controlled p) :
    after.Controlled p := by
  rcases h with ⟨i, outcome, hdispatch, hafter⟩
  exact Executes.controlled hlabels ⟨outcome, hdispatch, hafter⟩ hm

theorem Reaches.controlled {input : List UInt8} {output diagnostics : Channel}
    (hlabels : p.LabelsInside) (h : Reaches p (.initial input output diagnostics) m) :
    m.Controlled p :=
  h.invariant (Step.controlled hlabels) (controlled_initial input output diagnostics)

/-- Where there is no next instruction, the program counter has come to the end. -/
theorem Controlled.pc_eq_size (hm : m.Controlled p) (hnone : m.dispatch p = none) :
    m.pc = p.size := by
  have houtside : p.size ≤ m.pc := by
    unfold dispatch at hnone
    split at hnone
    next hend => exact Array.getElem?_eq_none_iff.1 hend
    next => cases hnone
  exact Nat.le_antisymm hm.pc houtside

end Machine

namespace Program

/-- In every state that is reached, the control is inside the program; an instruction is executed
with the program counter right behind it; and a run leads to a state that is reached, at the end of
the program if the run succeeds. -/
theorem reaches_controlled (instructions : List Instruction) (p : Program)
    (hp : p = ofInstructions instructions) (input : List UInt8) (output diagnostics : Channel)
    (m : Machine) (h : Machine.Reaches p (.initial input output diagnostics) m) :
    m.Controlled p ∧
      (∀ i outcome, m.dispatch p = some (i, outcome) →
        outcome = i.execute p.labels m.fetch ∧ 1 ≤ m.fetch.pc ∧
          p.instructions[m.fetch.pc - 1]? = some i) ∧
      ∀ fuel error after, Machine.run p fuel m = some (error, after) →
        Machine.Reaches p (.initial input output diagnostics) after ∧
          (error = none → after.pc = p.size) := by
  have hlabels : p.LabelsInside := hp ▸ labelsInside_ofInstructions instructions
  refine ⟨h.controlled hlabels, ?_, ?_⟩
  · intro i outcome hdispatch
    rcases Machine.dispatch_eq_some_iff.1 hdispatch with ⟨hi, houtcome⟩
    exact ⟨houtcome.symm, Nat.le_add_left 1 m.pc, hi⟩
  · intro fuel error after hrun
    rcases Machine.run_ends hrun with ⟨last, hreaches, hends⟩
    have hlast : Machine.Reaches p (.initial input output diagnostics) last := h.trans hreaches
    refine ⟨hlast.trans hends.reaches, ?_⟩
    intro herror
    -- A run that ends without an error has found no next instruction.
    cases hends with
    | halted hnone => exact (hlast.controlled hlabels).pc_eq_size hnone
    | failed i fault _ hfailed => cases herror

/-- A call to the label behind it leaves that position on the call stack, and then the program
ends. -/
theorem reaches_controlled_call :
    ∃ (p : Program) (m after : Machine),
      p = ofInstructions [⟨.call, .ofInt 1, [.label "f"]⟩, ⟨.label, .ofInt 2, [.label "f"]⟩] ∧
      Machine.Reaches p (.initial [] (.ofRoom none) (.ofRoom none)) m ∧ m.callStack = [1] ∧
      Machine.run p 2 m = some (none, after) ∧ m.Controlled p ∧ after.pc = p.size := by
  have hp : (⟨#[⟨.call, .ofInt 1, [.label "f"]⟩, ⟨.label, .ofInt 2, [.label "f"]⟩],
        LabelTable.empty.insert "f" 1⟩ : Program) =
      ofInstructions [⟨.call, .ofInt 1, [.label "f"]⟩, ⟨.label, .ofInt 2, [.label "f"]⟩] :=
    (ofInstructions_eq_of_ascending (by decide +kernel)).symm
  have hdispatch : (Machine.initial [] (.ofRoom none) (.ofRoom none)).dispatch
      ⟨#[⟨.call, .ofInt 1, [.label "f"]⟩, ⟨.label, .ofInt 2, [.label "f"]⟩],
        LabelTable.empty.insert "f" 1⟩ =
      some (⟨.call, .ofInt 1, [.label "f"]⟩,
        .done ⟨.initial, [1], [], 1, 1, [], .ofRoom none, .ofRoom none⟩) :=
    rfl
  have hreaches := Machine.Reaches.of_dispatch hdispatch
  have hrun : Machine.run
      ⟨#[⟨.call, .ofInt 1, [.label "f"]⟩, ⟨.label, .ofInt 2, [.label "f"]⟩],
        LabelTable.empty.insert "f" 1⟩ 2
      ⟨.initial, [1], [], 1, 1, [], .ofRoom none, .ofRoom none⟩ = some (none, _) :=
    rfl
  have hcontrolled := reaches_controlled _ _ hp _ _ _ _ hreaches
  exact ⟨_, _, _, hp, hreaches, rfl, hrun, hcontrolled.1, (hcontrolled.2.2 _ _ _ hrun).2 rfl⟩

end Program

end FrameCode
