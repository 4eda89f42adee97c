import FrameCode.Proofs.Arrangement
import FrameCode.Proofs.Transitions

/-!
# Where a run has failed

An error carries the order of an instruction.  This is the instruction right before the program
counter, the last one that the run has started, and the next run goes on behind it.  The machine
counts every instruction that it starts, whether the instruction fails or not.

- `Machine.started`: the instructions that a run starts, with their positions
- `Machine.History`: one run after the other, with what each of them has started
- `Machine.run_executed`, `Machine.run_located`: what a run counts, and where it fails
- `Program.position_unique_of_ofTextBy`: in a loaded program, an order belongs to one position
- `Machine.errors_located`: all of this for any number of runs
-/

namespace FrameCode

namespace Machine

variable {p : Program} {m after : Machine} {i : Instruction}

/-! ## What a run starts -/

/-- The instructions that a run starts, in their sequence and with their positions. -/
def started (p : Program) : Nat → Machine → List (Nat × Instruction)
  | 0, _ => []
  | fuel + 1, m =>
    match m.dispatch p with
    | none => []
    | some (i, .done after) => (m.pc, i) :: started p fuel after
    | some (i, .failed _ _) => [(m.pc, i)]

section

variable (fuel : Nat) {fault : Fault}

theorem started_of_none (h : m.dispatch p = none) : started p (fuel + 1) m = [] := by
  simp only [started, h]

theorem started_of_done (h : m.dispatch p = some (i, .done after)) :
    started p (fuel + 1) m = (m.pc, i) :: started p fuel after := by
  simp only [started, h]

theorem started_of_failed (h : m.dispatch p = some (i, .failed fault after)) :
    started p (fuel + 1) m = [(m.pc, i)] := by
  simp only [started, h]

end

/-- A run starts with the instruction at the program counter, if there is one. -/
theorem head?_started (p : Program) (fuel : Nat) (m : Machine) :
    (started p (fuel + 1) m).head? = p.instructions[m.pc]?.map fun i => (m.pc, i) := by
  unfold started dispatch
  cases p.instructions[m.pc]? with
  | none => rfl
  | some i =>
    dsimp only
    cases i.execute p.labels m.fetch <;> rfl

/-- One run after the other on the same machine, with what each of them returns and the instructions
that it has started. -/
inductive History (p : Program) :
    Machine → List (Option RuntimeError × List (Nat × Instruction)) → Machine → Prop
  | nil (m : Machine) : History p m [] m
  | cons {m middle after : Machine} {result : Option RuntimeError}
      {calls : List (Option RuntimeError × List (Nat × Instruction))} (fuel : Nat)
      (hrun : run p fuel m = some (result, middle)) (hlater : History p middle calls after) :
      History p m ((result, started p fuel m) :: calls) after

end Machine

/-! ## One step -/

theorem Effect.TakesPlace.executed {m after : Machine} {e : Effect} (h : e.TakesPlace m after) :
    after.executed = m.executed := by
  cases h <;> rfl

namespace Machine

variable {p : Program} {m after : Machine} {i : Instruction}

/-- Every instruction is counted, whether it succeeds or fails. -/
theorem Executes.executed (h : Executes p m i after) : after.executed = m.executed + 1 := by
  rcases h.cases with ⟨e, -, hplace⟩ | hretains
  · exact hplace.executed
  · exact hretains.executed

/-- An instruction that fails, a call or a jump among them, has not moved the program counter. -/
theorem pc_of_failed {fault : Fault} (h : m.dispatch p = some (i, .failed fault after)) :
    after.pc = m.pc + 1 :=
  (Instruction.execute_failed_retains (dispatch_eq_some_iff.1 h).2).pc

/-! ## One run -/

theorem run_executed {fuel : Nat} {error : Option RuntimeError}
    (h : run p fuel m = some (error, after)) :
    after.executed = m.executed + (started p fuel m).length := by
  induction fuel generalizing m with
  | zero => cases h
  | succ fuel ih =>
    simp only [run] at h
    split at h
    next hnone =>
      cases h
      rw [started_of_none fuel hnone]
      rfl
    next i next hdone =>
      have hnext : next.executed = m.executed + 1 := Executes.executed ⟨_, hdone, rfl⟩
      have hlater := ih h
      rw [started_of_done fuel hdone, List.length_cons]
      omega
    next i fault _ hfailed =>
      cases h
      have hlast : after.executed = m.executed + 1 := Executes.executed ⟨_, hfailed, rfl⟩
      rw [started_of_failed fuel hfailed]
      exact hlast

/-- A run that fails has started the instruction before the program counter last, and its error has
the order of this instruction. -/
theorem run_located {fuel : Nat} {e : RuntimeError} (h : run p fuel m = some (some e, after)) :
    ∃ position i, after.pc = position + 1 ∧ p.instructions[position]? = some i ∧
      e.order = i.order ∧ (started p fuel m).getLast? = some (position, i) := by
  induction fuel generalizing m with
  | zero => cases h
  | succ fuel ih =>
    simp only [run] at h
    split at h
    next => cases h
    next first next hdone =>
      -- What is started later comes last, so it does not matter what the first instruction is.
      rcases ih h with ⟨position, i, hpc, hi, horder, hlast⟩
      refine ⟨position, i, hpc, hi, horder, ?_⟩
      rw [started_of_done fuel hdone, List.getLast?_cons, hlast, Option.getD_some]
    next i fault _ hfailed =>
      cases h
      refine ⟨m.pc, i, pc_of_failed hfailed, (dispatch_eq_some_iff.1 hfailed).1, rfl, ?_⟩
      rw [started_of_failed fuel hfailed, List.getLast?_singleton]

end Machine

/-! ## Orders of loaded programs -/

namespace Program

/-- No order occurs twice in a loaded program. -/
theorem position_unique_of_ofTextBy {parse? : String → Option Markup.Element} {text : String}
    {p : Program} (hload : ofTextBy parse? text = .ok p) {j k : Nat} {a b : Instruction}
    (ha : p.instructions[j]? = some a) (hb : p.instructions[k]? = some b)
    (horder : a.order = b.order) : j = k := by
  rcases ofTextBy_eq_ok_iff.1 hload with ⟨root, -, hroot⟩
  rcases ofElement_eq_ok_iff.1 hroot with ⟨-, instructions, -, hcompatible, rfl⟩
  have hascending := sort_strictly_ascending (hcompatible.imp And.left)
  have hdistinct : ((sort instructions).map (·.order.toInt)).Nodup :=
    List.pairwise_map.2 (hascending.imp Int.ne_of_lt)
  have hfound : ∀ {k : Nat} {i : Instruction},
      (ofInstructions instructions).instructions[k]? = some i →
      ((sort instructions).map (·.order.toInt))[k]? = some i.order.toInt := by
    intro k i hi
    have hsorted : (sort instructions)[k]? = some i := by simpa [ofInstructions] using hi
    rw [List.getElem?_map, hsorted, Option.map_some]
  have hinside := (List.getElem?_eq_some_iff.1 (hfound ha)).1
  refine (List.getElem?_inj hinside hdistinct).1 ?_
  rw [hfound ha, hfound hb, horder]

end Program

/-! ## Any number of runs -/

namespace Machine

/-- In any number of runs, every instruction that is started is counted. -/
theorem History.executed {p : Program} {m after : Machine}
    {calls : List (Option RuntimeError × List (Nat × Instruction))} (h : History p m calls after) :
    after.executed = m.executed + (calls.map fun call => call.2.length).sum := by
  induction h with
  | nil => rfl
  | cons fuel hrun _ ih =>
    have hfirst := run_executed hrun
    simp only [List.map_cons, List.sum_cons]
    omega

/-- After any number of runs, the machine has counted every instruction that has been started.  If
the next run fails, the error has the order of the instruction before the program counter, which is
the last one that has been started, and the run after it goes on with the instruction at the program
counter.  In a loaded program no other instruction has this order, however the text was read. -/
theorem errors_located (p : Program) (input : List UInt8) (output diagnostics : Channel)
    (calls : List (Option RuntimeError × List (Nat × Instruction))) (m : Machine)
    (h : History p (.initial input output diagnostics) calls m) :
    m.executed = (calls.map fun call => call.2.length).sum ∧
      ∀ fuel e after, run p fuel m = some (some e, after) →
        1 ≤ after.pc ∧
        (∃ i, p.instructions[after.pc - 1]? = some i ∧ e.order = i.order ∧
          (started p fuel m).getLast? = some (after.pc - 1, i)) ∧
        (∀ more, (started p (more + 1) after).head? =
          p.instructions[after.pc]?.map fun i => (after.pc, i)) ∧
        ∀ (parse? : String → Option Markup.Element) text, Program.ofTextBy parse? text = .ok p →
          ∀ position j, p.instructions[position]? = some j →
            j.order = e.order → position = after.pc - 1 := by
  refine ⟨h.executed.trans (Nat.zero_add _), ?_⟩
  intro fuel e after hrun
  rcases run_located hrun with ⟨position, i, hpc, hi, horder, hlast⟩
  have hposition : after.pc - 1 = position := by rw [hpc, Nat.add_sub_cancel]
  rw [hposition]
  refine ⟨hpc ▸ Nat.le_add_left 1 position, ⟨i, hi, horder, hlast⟩, ?_, ?_⟩
  · intro more
    exact head?_started p more after
  · intro parse? text hload other j hj hsame
    exact Program.position_unique_of_ofTextBy hload hj hi (hsame.trans horder)

/-- A call to a label that is nowhere fails, and a second run fails with the return behind it. -/
theorem errors_located_resumed :
    ∃ (p : Program) (calls : List (Option RuntimeError × List (Nat × Instruction)))
      (m after : Machine) (e : RuntimeError),
      Program.ofText ("<program language=\"IPPcode18\"><instruction order=\"7\" opcode=\"CALL\">" ++
        "<arg1 type=\"label\">f</arg1></instruction><instruction order=\"10\" " ++
        "opcode=\"RETURN\"/></program>") = .ok p ∧
      History p (.initial [] (.ofRoom none) (.ofRoom none)) calls m ∧
      calls.map Prod.fst = [some ⟨.undefinedLabel "f", .ofInt 7⟩] ∧
      run p 1 m = some (some e, after) ∧
      m.executed = (calls.map fun call => call.2.length).sum ∧ 1 ≤ after.pc ∧
      (∃ i, p.instructions[after.pc - 1]? = some i ∧ e.order = i.order ∧
        (started p 1 m).getLast? = some (after.pc - 1, i)) ∧
      ∀ position j, p.instructions[position]? = some j → j.order = e.order →
        position = after.pc - 1 := by
  have hload : Program.ofText
        ("<program language=\"IPPcode18\"><instruction order=\"7\" opcode=\"CALL\">" ++
        "<arg1 type=\"label\">f</arg1></instruction><instruction order=\"10\" " ++
        "opcode=\"RETURN\"/></program>") =
      .ok ⟨#[⟨.call, .ofInt 7, [.label "f"]⟩, ⟨.ret, .ofInt 10, []⟩], .empty⟩ := by
    rw [Program.ofText_eq_ok_of_reads
        [⟨.call, .ofInt 7, [.label "f"]⟩, ⟨.ret, .ofInt 10, []⟩] (by decide +kernel),
      Program.ofInstructions_eq_of_ascending (by decide +kernel)]
    rfl
  have hhistory : History ⟨#[⟨.call, .ofInt 7, [.label "f"]⟩, ⟨.ret, .ofInt 10, []⟩], .empty⟩
      (.initial [] (.ofRoom none) (.ofRoom none))
      [(some ⟨.undefinedLabel "f", .ofInt 7⟩, [(0, ⟨.call, .ofInt 7, [.label "f"]⟩)])] _ :=
    .cons 1 rfl (.nil _)
  have hlocated := errors_located _ _ _ _ _ _ hhistory
  rcases hlocated.2 1 _ _ rfl with ⟨hpc, hlast, -, hunique⟩
  exact ⟨_, _, _, _, _, hload, hhistory, rfl, rfl, hlocated.1, hpc, hlast, hunique _ _ hload⟩

end Machine

end FrameCode
