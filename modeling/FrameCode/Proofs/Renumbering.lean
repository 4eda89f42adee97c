import FrameCode.Proofs.Arrangement
import FrameCode.Proofs.Runs
import Mathlib.Data.Int.ConditionallyCompleteOrder
import Mathlib.Order.ConditionallyCompleteLattice.Basic

/-!
# Orders only sort

The orders of instructions decide about their sequence, and then they show up in reports and errors
only.  So instructions may be numbered anew, as long as greater orders stay greater: the two
programs run in lockstep, from fault to fault, and differ in nothing but the numbers they report.

- `Order.renumber`, `Instruction.renumber`, `Program.renumber`, `RuntimeError.renumber`: new numbers
- `Program.ofInstructions_renumber`: sorting commutes with an increasing renumbering
- `Machine.Agrees`: equal states, apart from what was written to diagnostics without a limit
- `Machine.dispatch_renumber`: one instruction
- `Machine.run_renumber`, `Machine.Calls.renumber`: runs
- `Machine.renumber_lockstep`: any number of instructions and runs of the two programs
-/

namespace FrameCode

variable {f : Int → Int}

/-! ## Renumbered programs -/

/-- The order with another number. -/
def Order.renumber (f : Int → Int) (order : Order) : Order :=
  .ofInt (f order.toInt)

@[simp]
theorem Order.toInt_renumber (order : Order) : (order.renumber f).toInt = f order.toInt :=
  toInt_ofInt _

def Instruction.renumber (f : Int → Int) (i : Instruction) : Instruction :=
  { i with order := i.order.renumber f }

def RuntimeError.renumber (f : Int → Int) (e : RuntimeError) : RuntimeError :=
  { e with order := e.order.renumber f }

namespace Program

/-- The program with other numbers in the same places. -/
def renumber (f : Int → Int) (p : Program) : Program :=
  { p with instructions := p.instructions.map (·.renumber f) }

theorem sort_renumber (hf : StrictMono f) (instructions : List Instruction) :
    sort (instructions.map (·.renumber f)) = (sort instructions).map (·.renumber f) := by
  unfold sort
  refine (List.map_mergeSort ?_).symm
  intro a _ b _
  rw [Bool.eq_iff_iff, Order.le_iff, Order.le_iff]
  calc
    a.order.toInt ≤ b.order.toInt ↔ f a.order.toInt ≤ f b.order.toInt := hf.le_iff_le.symm
    _ ↔ (a.order.renumber f).toInt ≤ (b.order.renumber f).toInt := by simp

/-- No label depends on an order. -/
theorem collectLabels_renumber (table : LabelTable) (position : Nat)
    (instructions : List Instruction) :
    collectLabels table position (instructions.map (·.renumber f)) =
      collectLabels table position instructions := by
  induction instructions generalizing table position with
  | nil => rfl
  | cons i later ih =>
    have hdefinition : (i.renumber f).definition? = i.definition? := rfl
    rw [List.map_cons, collectLabels, collectLabels, hdefinition]
    cases i.definition? with
    | none => exact ih ..
    | some name => exact ih ..

/-- Whether the instructions are numbered anew before or after they are sorted makes no
difference. -/
theorem ofInstructions_renumber (hf : StrictMono f) (instructions : List Instruction) :
    ofInstructions (instructions.map (·.renumber f)) =
      (ofInstructions instructions).renumber f := by
  unfold ofInstructions renumber
  simp only [sort_renumber hf, collectLabels_renumber, List.map_toArray]

end Program

/-! ## States that agree -/

/-- Equal states, apart from what has been written to the diagnostics, which take any number of
bytes. -/
structure Machine.Agrees (m other : Machine) : Prop where
  frames : other.frames = m.frames
  callStack : other.callStack = m.callStack
  dataStack : other.dataStack = m.dataStack
  pc : other.pc = m.pc
  executed : other.executed = m.executed
  input : other.input = m.input
  output : other.output = m.output
  unlimited : m.diagnostics.room = none ∧ other.diagnostics.room = none

/-- Success in both states, or the same fault in both, with states that agree. -/
inductive Outcome.Agrees : Outcome → Outcome → Prop
  | done {m other : Machine} (h : m.Agrees other) : Agrees (.done m) (.done other)
  | failed {m other : Machine} (fault : Fault) (h : m.Agrees other) :
      Agrees (.failed fault m) (.failed fault other)

theorem Channel.fits_of_room {channel : Channel} (h : channel.room = none) (text : String) :
    channel.fits text = true := by
  simp [fits, h]

theorem Outcome.Agrees.machine {outcome other : Outcome} (h : outcome.Agrees other) :
    outcome.machine.Agrees other.machine := by
  cases h with
  | done h => exact h
  | failed _ h => exact h

namespace Machine

variable {m other : Machine}

theorem Agrees.fetch (h : m.Agrees other) : m.fetch.Agrees other.fetch :=
  { h with
    pc := congrArg (· + 1) h.pc
    executed := congrArg (· + 1) h.executed }

theorem withFrames_agrees (h : m.Agrees other) (result : Except Fault Frames) :
    (m.withFrames result).Agrees (other.withFrames result) := by
  cases result with
  | error fault => exact .failed fault h
  | ok frames => exact .done { h with frames := rfl }

theorem ret_agrees (h : m.Agrees other) : m.ret.Agrees other.ret := by
  unfold ret
  rw [h.callStack]
  cases m.callStack with
  | nil => exact .failed _ h
  | cons position below => exact .done { h with callStack := rfl, pc := rfl }

theorem pop_agrees (h : m.Agrees other) (target : Variable) :
    (m.pop target).Agrees (other.pop target) := by
  unfold pop
  rw [h.frames, h.dataStack]
  cases m.frames.checkAssignable target with
  | error fault => exact .failed fault h
  | ok _ =>
    cases m.dataStack with
    | nil => exact .failed _ h
    | cons value below =>
      refine withFrames_agrees ?_ _
      exact { h with frames := rfl, dataStack := rfl }

theorem readLine_agrees (h : m.Agrees other) (target : Variable) (tag : TypeTag) :
    (m.readLine target tag).Agrees (other.readLine target tag) := by
  unfold readLine
  rw [h.frames, h.input]
  cases m.frames.checkAssignable target with
  | error fault => exact .failed fault h
  | ok _ =>
    dsimp only
    cases Line.decode (Line.next m.input).1 with
    | error failure => exact .failed _ { h with frames := rfl, input := rfl }
    | ok text =>
      refine withFrames_agrees ?_ _
      exact { h with frames := rfl, input := rfl }

theorem write_agrees (h : m.Agrees other) (text : String) :
    (m.write text).Agrees (other.write text) := by
  unfold write
  rw [h.output]
  cases m.output.fits text with
  | false => exact .failed _ { h with output := rfl }
  | true => exact .done { h with output := rfl }

theorem report_of_room (h : m.diagnostics.room = none) (text : String) :
    m.report text = .done { m with diagnostics := m.diagnostics.write text } :=
  if_pos (Channel.fits_of_room h text)

/-- The two states may report different texts. -/
theorem report_agrees (h : m.Agrees other) (text otherText : String) :
    (m.report text).Agrees (other.report otherText) := by
  rcases h.unlimited with ⟨hroom, hotherRoom⟩
  rw [report_of_room hroom, report_of_room hotherRoom]
  exact .done { h with
    unlimited := ⟨Channel.room_write hroom text, Channel.room_write hotherRoom otherText⟩ }

end Machine

/-- An effect depends on nothing in which the states differ. -/
theorem Effect.apply_agrees {m other : Machine} (h : m.Agrees other) (e : Effect) :
    (e.apply m).Agrees (e.apply other) := by
  unfold apply
  cases e with
  | skip => exact .done h
  | assign target value => exact h.frames ▸ Machine.withFrames_agrees h _
  | declare target => exact h.frames ▸ Machine.withFrames_agrees h _
  | createFrame => exact .done { h with frames := congrArg Frames.createTemporary h.frames }
  | pushFrame => exact h.frames ▸ Machine.withFrames_agrees h _
  | popFrame => exact h.frames ▸ Machine.withFrames_agrees h _
  | jump position => exact .done { h with pc := rfl }
  | call position => exact .done { h with callStack := by rw [h.pc, h.callStack], pc := rfl }
  | ret => exact Machine.ret_agrees h
  | push value => exact .done { h with dataStack := congrArg (value :: ·) h.dataStack }
  | pop target => exact Machine.pop_agrees h target
  | read target tag => exact Machine.readLine_agrees h target tag
  | write text => exact Machine.write_agrees h text
  | report text => exact Machine.report_agrees h text text

namespace Instruction

variable {i : Instruction} {labels : LabelTable} {m other : Machine}

theorem length_renumber (i : Instruction) (frames : Frames) :
    (i.renumber f).length frames = i.length frames := by
  have hfits : ∀ result, (i.renumber f).orOverflow result = i.orOverflow result := by
    intro result
    cases result with
    | none => rfl
    | some n => rfl
  unfold length
  simp only [hfits]
  rfl

/-- Only a debug dump looks at the order. -/
theorem effect_renumber (h : m.Agrees other) (hop : i.opcode ≠ .debugDump) :
    (i.renumber f).effect labels other = i.effect labels m := by
  rcases i with ⟨op, order, operands⟩
  unfold effect
  rw [h.frames]
  cases op with
  | debugDump => exact absurd rfl hop
  -- Here computation would go on to the bounds of words.
  | length => exact length_renumber _ m.frames
  | _ => rfl

theorem execute_debugDump (hop : i.opcode = .debugDump) :
    i.execute labels m = m.report (i.dump m) := by
  have heffect : i.effect labels m = .ok (.report (i.dump m)) := by
    unfold effect
    rw [hop]
  exact execute_of_effect heffect

theorem execute_renumber (h : m.Agrees other) :
    (i.execute labels m).Agrees ((i.renumber f).execute labels other) := by
  by_cases hop : i.opcode = .debugDump
  · -- The texts differ in the order, but both are written whole.
    have hrenumbered : (i.renumber f).opcode = .debugDump := hop
    rw [execute_debugDump hop, execute_debugDump hrenumbered]
    exact Machine.report_agrees h _ _
  · rw [execute_eq, execute_eq, effect_renumber h hop]
    cases i.effect labels m with
    | error fault => exact .failed fault h
    | ok e => exact e.apply_agrees h

end Instruction

/-! ## Lockstep -/

namespace Machine

variable {p : Program} {m other after otherAfter : Machine}

/-- What the next instruction does in two programs: both have none, or it is the same up to its
order and its outcomes agree. -/
inductive SameTurn (f : Int → Int) :
    Option (Instruction × Outcome) → Option (Instruction × Outcome) → Prop
  | halted : SameTurn f none none
  | started (i : Instruction) {outcome other : Outcome} (h : outcome.Agrees other) :
      SameTurn f (some (i, outcome)) (some (i.renumber f, other))

theorem dispatch_renumber (h : m.Agrees other) :
    SameTurn f (m.dispatch p) (other.dispatch (p.renumber f)) := by
  have hinstruction : (p.renumber f).instructions[m.pc]? =
      p.instructions[m.pc]?.map (·.renumber f) := Array.getElem?_map
  unfold dispatch
  rw [h.pc, hinstruction]
  cases p.instructions[m.pc]? with
  | none => exact .halted
  | some i => exact .started i (Instruction.execute_renumber h.fetch)

/-- The state after the next instruction; a machine that has halted stays as it is. -/
def advance (p : Program) (m : Machine) : Machine :=
  match m.dispatch p with
  | none => m
  | some (_, outcome) => outcome.machine

theorem advance_renumber (h : m.Agrees other) :
    (m.advance p).Agrees (other.advance (p.renumber f)) := by
  have hturn : SameTurn f (m.dispatch p) (other.dispatch (p.renumber f)) := dispatch_renumber h
  unfold advance
  generalize m.dispatch p = turn, other.dispatch (p.renumber f) = otherTurn at hturn ⊢
  cases hturn with
  | halted => exact h
  | started i houtcome => exact houtcome.machine

/-- The programs stay together over any number of instructions. -/
theorem iterate_advance_renumber (h : m.Agrees other) (n : Nat) :
    ((advance p)^[n] m).Agrees ((advance (p.renumber f))^[n] other) := by
  induction n with
  | zero => exact h
  | succ n ih =>
    rw [Function.iterate_succ_apply', Function.iterate_succ_apply']
    exact advance_renumber ih

/-- How a run ends in two programs: in neither of them with the instructions it may start, or in
both with the same fault, if any, under the new number. -/
inductive SameEnd (f : Int → Int) :
    Option (Option RuntimeError × Machine) → Option (Option RuntimeError × Machine) → Prop
  | unfinished : SameEnd f none none
  | ended (result : Option RuntimeError) {m other : Machine} (h : m.Agrees other) :
      SameEnd f (some (result, m)) (some (result.map (·.renumber f), other))

theorem run_renumber (h : m.Agrees other) (fuel : Nat) :
    SameEnd f (run p fuel m) (run (p.renumber f) fuel other) := by
  -- Both runs take their turns together, so the states after a turn still agree.
  induction fuel generalizing m other with
  | zero => exact .unfinished
  | succ fuel ih =>
    have hturn : SameTurn f (m.dispatch p) (other.dispatch (p.renumber f)) := dispatch_renumber h
    unfold run
    generalize m.dispatch p = turn, other.dispatch (p.renumber f) = otherTurn at hturn ⊢
    cases hturn with
    | halted => exact .ended none h
    | started i houtcome =>
      cases houtcome with
      | done hafter => exact ih hafter
      | failed fault hafter => exact .ended (some ⟨fault, i.order⟩) hafter

namespace Calls

variable {results otherResults : List (Option RuntimeError)}

theorem renumber (hcalls : Calls p m results after) (h : m.Agrees other) :
    ∃ otherAfter, after.Agrees otherAfter ∧
      Calls (p.renumber f) other (results.map (·.map (·.renumber f))) otherAfter := by
  induction hcalls generalizing other with
  | nil m => exact ⟨other, h, .nil other⟩
  | @cons m middle _ _ _ fuel hrun _ ih =>
    have hend : SameEnd f (run p fuel m) (run (p.renumber f) fuel other) := run_renumber h fuel
    generalize hother : run (p.renumber f) fuel other = otherEnd at hend
    rw [hrun] at hend
    cases hend with
    | ended _ hmiddle =>
      rcases ih hmiddle with ⟨otherAfter, hafter, hlater⟩
      exact ⟨otherAfter, hafter, .cons fuel hother hlater⟩

theorem of_renumber (hcalls : Calls (p.renumber f) other otherResults otherAfter)
    (h : m.Agrees other) :
    ∃ results after, otherResults = results.map (·.map (·.renumber f)) ∧
      after.Agrees otherAfter ∧ Calls p m results after := by
  induction hcalls generalizing m with
  | nil other => exact ⟨[], m, rfl, h, .nil m⟩
  | @cons other middle _ _ _ fuel hrun _ ih =>
    have hend : SameEnd f (run p fuel m) (run (p.renumber f) fuel other) := run_renumber h fuel
    generalize hfirst : run p fuel m = first at hend
    rw [hrun] at hend
    cases hend with
    | ended result hmiddle =>
      rcases ih hmiddle with ⟨results, after, rfl, hafter, hlater⟩
      exact ⟨result :: results, after, rfl, hafter, .cons fuel hfirst hlater⟩

end Calls

/-- Two programs in lockstep: their states agree, and so do the next instruction and a run from
there. -/
structure Lockstep (f : Int → Int) (p otherProgram : Program) (m other : Machine) : Prop where
  agrees : m.Agrees other
  turn : SameTurn f (m.dispatch p) (other.dispatch otherProgram)
  run : ∀ fuel, SameEnd f (run p fuel m) (run otherProgram fuel other)

theorem Agrees.lockstep (h : m.Agrees other) : Lockstep f p (p.renumber f) m other where
  agrees := h
  turn := dispatch_renumber h
  run := run_renumber h

/-- Instructions and the same instructions with greater numbers for greater ones run in lockstep,
over any number of instructions and of runs. -/
theorem renumber_lockstep (f : Int → Int) (hf : StrictMono f) (instructions : List Instruction)
    (input : List UInt8) (output diagnostics : Channel) (hroom : diagnostics.room = none) :
    (∀ n : Nat,
      Lockstep f (.ofInstructions instructions) (.ofInstructions (instructions.map (·.renumber f)))
        ((advance (.ofInstructions instructions))^[n] (.initial input output diagnostics))
        ((advance (.ofInstructions (instructions.map (·.renumber f))))^[n]
          (.initial input output diagnostics))) ∧
    (∀ results after,
      Calls (.ofInstructions instructions) (.initial input output diagnostics) results after →
      ∃ other, after.Agrees other ∧
        Calls (.ofInstructions (instructions.map (·.renumber f)))
          (.initial input output diagnostics) (results.map (·.map (·.renumber f))) other) ∧
    ∀ otherResults other,
      Calls (.ofInstructions (instructions.map (·.renumber f)))
        (.initial input output diagnostics) otherResults other →
      ∃ results after, otherResults = results.map (·.map (·.renumber f)) ∧ after.Agrees other ∧
        Calls (.ofInstructions instructions) (.initial input output diagnostics) results after := by
  have hstart : (initial input output diagnostics).Agrees (.initial input output diagnostics) :=
    ⟨rfl, rfl, rfl, rfl, rfl, rfl, rfl, hroom, hroom⟩
  rw [Program.ofInstructions_renumber hf]
  refine ⟨?_, ?_, ?_⟩
  · intro n
    exact (iterate_advance_renumber hstart n).lockstep
  · intro results after hcalls
    exact hcalls.renumber hstart
  · intro otherResults other hcalls
    exact hcalls.of_renumber hstart

/-- Under new numbers a debug dump reports another order, and so does the failure after it. -/
theorem renumber_lockstep_dump :
    StrictMono (fun n : Int => 10 * n - 3) ∧ (Channel.ofRoom none).room = none ∧
    ∃ after other,
      Calls (.ofInstructions [⟨.debugDump, .ofInt 1, []⟩, ⟨.popFrame, .ofInt 2, []⟩])
        (.initial [] (.ofRoom none) (.ofRoom none))
        [some ⟨.undefinedFrame .current, .ofInt 2⟩, none] after ∧
      Calls (.ofInstructions [⟨.debugDump, .ofInt 7, []⟩, ⟨.popFrame, .ofInt 17, []⟩])
        (.initial [] (.ofRoom none) (.ofRoom none))
        [some ⟨.undefinedFrame .current, .ofInt 17⟩, none] other ∧
      after.Agrees other ∧
      ∃ results back, back.Agrees other ∧
        Calls (.ofInstructions [⟨.debugDump, .ofInt 1, []⟩, ⟨.popFrame, .ofInt 2, []⟩])
          (.initial [] (.ofRoom none) (.ofRoom none)) results back := by
  have hmono : StrictMono (fun n : Int => 10 * n - 3) := by
    intro a b hab
    dsimp only
    omega
  have hcalls : ∃ after,
      Calls (.ofInstructions [⟨.debugDump, .ofInt 1, []⟩, ⟨.popFrame, .ofInt 2, []⟩])
        (.initial [] (.ofRoom none) (.ofRoom none))
        [some ⟨.undefinedFrame .current, .ofInt 2⟩, none] after := by
    rw [Program.ofInstructions_eq_of_ascending (by decide)]
    exact ⟨_, .cons 9 rfl (.cons 9 rfl (.nil _))⟩
  rcases hcalls with ⟨after, hcalls⟩
  rcases renumber_lockstep _ hmono [⟨.debugDump, .ofInt 1, []⟩, ⟨.popFrame, .ofInt 2, []⟩]
    [] (.ofRoom none) (.ofRoom none) rfl with ⟨-, hforth, hback⟩
  rcases hforth _ _ hcalls with ⟨other, hagrees, hother⟩
  rcases hback _ _ hother with ⟨results, back, -, hbackAgrees, hbackCalls⟩
  exact ⟨hmono, rfl, after, other, hcalls, hother, hagrees, results, back, hbackAgrees, hbackCalls⟩

end Machine
end FrameCode
