import FrameCode.Proofs.Effects
import FrameCode.Proofs.Runs

/-!
# What an instruction changes

An instruction that succeeds has one effect, and one that fails leaves everything but the channels
as it was.  So the program counter and the two stacks change in few ways, whatever the instruction
is and however it ends.

- `Effect.TakesPlace`: the state after an effect that succeeds
- `Machine.Retains`: a state is another one up to its channels
- `Machine.Executes`: an instruction is started in a state and ends in another, successful or not
- `Machine.Transfers`, `Machine.Shifts`: what becomes of the program counter with the call stack,
  and of the data stack
-/

namespace FrameCode

/-! ## Effects that take place -/

namespace Machine

/-- A state is another one, except for what has passed through the channels. -/
structure Retains (m after : Machine) : Prop where
  frames : after.frames = m.frames
  callStack : after.callStack = m.callStack
  dataStack : after.dataStack = m.dataStack
  pc : after.pc = m.pc
  executed : after.executed = m.executed

theorem Retains.refl (m : Machine) : m.Retains m :=
  ⟨rfl, rfl, rfl, rfl, rfl⟩

theorem withFrames_eq_done_iff {m after : Machine} {result : Except Fault Frames} :
    m.withFrames result = .done after ↔
      ∃ frames, result = .ok frames ∧ after = { m with frames := frames } := by
  cases result <;> simp [withFrames, eq_comm]

end Machine

namespace Effect

/-- The state after an effect that succeeds. -/
inductive TakesPlace (m : Machine) : Effect → Machine → Prop
  | skip : TakesPlace m .skip m
  | assign (target : Variable) (value : Value) (frames : Frames)
      (hframes : m.frames.assign target value = .ok frames) :
      TakesPlace m (.assign target value) { m with frames := frames }
  | declare (target : Variable) (frames : Frames) (hframes : m.frames.declare target = .ok frames) :
      TakesPlace m (.declare target) { m with frames := frames }
  | createFrame : TakesPlace m .createFrame { m with frames := m.frames.createTemporary }
  | pushFrame (frames : Frames) (hframes : m.frames.pushTemporary = .ok frames) :
      TakesPlace m .pushFrame { m with frames := frames }
  | popFrame (frame : Frame) (frames : Frames) (hframes : m.frames.popLocal = .ok (frame, frames)) :
      TakesPlace m .popFrame { m with frames := frames }
  | jump (position : Nat) : TakesPlace m (.jump position) { m with pc := position }
  | call (position : Nat) :
      TakesPlace m (.call position) { m with callStack := m.pc :: m.callStack, pc := position }
  | ret (position : Nat) (below : List Nat) (hstack : m.callStack = position :: below) :
      TakesPlace m .ret { m with callStack := below, pc := position }
  | push (value : Value) : TakesPlace m (.push value) { m with dataStack := value :: m.dataStack }
  | pop (target : Variable) (value : Value) (below : List Value) (frames : Frames)
      (hstack : m.dataStack = value :: below)
      (hframes : m.frames.assign target value = .ok frames) :
      TakesPlace m (.pop target) { m with dataStack := below, frames := frames }
  | read (target : Variable) (tag : TypeTag) (text : Option String) (frames : Frames)
      (htext : Line.decode (Line.next m.input).1 = .ok text)
      (hframes : m.frames.assign target (Value.ofLine tag text) = .ok frames) :
      TakesPlace m (.read target tag) { m with input := (Line.next m.input).2, frames := frames }
  | write (text : String) (hfits : m.output.fits text = true) :
      TakesPlace m (.write text) { m with output := m.output.write text }
  | report (text : String) (hfits : m.diagnostics.fits text = true) :
      TakesPlace m (.report text) { m with diagnostics := m.diagnostics.write text }

variable {m after : Machine} {e : Effect}

theorem takesPlace_pop {target : Variable} (h : m.pop target = .done after) :
    TakesPlace m (.pop target) after := by
  unfold Machine.pop at h
  split at h
  next => cases h
  next =>
    split at h
    next => cases h
    next value below hstack =>
      rcases Machine.withFrames_eq_done_iff.1 h with ⟨frames, hframes, rfl⟩
      exact .pop target value below frames hstack hframes

theorem takesPlace_read {target : Variable} {tag : TypeTag}
    (h : m.readLine target tag = .done after) : TakesPlace m (.read target tag) after := by
  unfold Machine.readLine at h
  split at h
  next => cases h
  next =>
    dsimp only at h
    split at h
    next => cases h
    next text htext =>
      rcases Machine.withFrames_eq_done_iff.1 h with ⟨frames, hframes, rfl⟩
      exact .read target tag text frames htext hframes

theorem takesPlace_of_apply (h : e.apply m = .done after) : TakesPlace m e after := by
  cases e with
  | skip => cases h; exact .skip
  | assign target value =>
    rcases Machine.withFrames_eq_done_iff.1 h with ⟨frames, hframes, rfl⟩
    exact .assign target value frames hframes
  | declare target =>
    rcases Machine.withFrames_eq_done_iff.1 h with ⟨frames, hframes, rfl⟩
    exact .declare target frames hframes
  | createFrame => cases h; exact .createFrame
  | pushFrame =>
    rcases Machine.withFrames_eq_done_iff.1 h with ⟨frames, hframes, rfl⟩
    exact .pushFrame frames hframes
  | popFrame =>
    rcases Machine.withFrames_eq_done_iff.1 h with ⟨frames, hframes, rfl⟩
    rcases map_eq_ok_iff.1 hframes with ⟨⟨frame, frames⟩, hpop, rfl⟩
    exact .popFrame frame frames hpop
  | jump position => cases h; exact .jump position
  | call position => cases h; exact .call position
  | ret =>
    simp only [apply, Machine.ret] at h
    split at h
    next => cases h
    next position below hstack => cases h; exact .ret position below hstack
  | push value => cases h; exact .push value
  | pop target => exact takesPlace_pop h
  | read target tag => exact takesPlace_read h
  | write text =>
    simp only [apply, Machine.write] at h
    split at h
    next hfits => cases h; exact .write text hfits
    next => cases h
  | report text =>
    simp only [apply, Machine.report] at h
    split at h
    next hfits => cases h; exact .report text hfits
    next => cases h

/-- An effect that fails changes nothing but a channel. -/
theorem FailsWith.retains {fault : Fault} (h : FailsWith m e fault after) : m.Retains after := by
  cases h with
  | refused _ _ _ => exact .refl m
  | notText _ _ _ | outputFull _ _ _ | diagnosticsFull _ _ _ => exact ⟨rfl, rfl, rfl, rfl, rfl⟩

end Effect

/-! ## Instructions -/

namespace Instruction

variable {i : Instruction} {labels : LabelTable} {m after : Machine}

theorem execute_done_effect (h : i.execute labels m = .done after) :
    ∃ e, i.effect labels m = .ok e ∧ Effect.TakesPlace m e after := by
  rcases execute_eq_done_iff.1 h with ⟨e, heffect, happly⟩
  exact ⟨e, heffect, Effect.takesPlace_of_apply happly⟩

theorem execute_done_cases (h : i.execute labels m = .done after) :
    ∃ e, i.Performs labels m e ∧ Effect.TakesPlace m e after := by
  rcases execute_done_effect h with ⟨e, heffect, hplace⟩
  exact ⟨e, effect_performs heffect, hplace⟩

theorem execute_failed_retains {fault : Fault} (h : i.execute labels m = .failed fault after) :
    m.Retains after := by
  rcases execute_eq_failed_iff.1 h with ⟨-, rfl⟩ | ⟨e, -, happly⟩
  · exact .refl after
  · exact (Effect.failsWith_of_apply happly).retains

/-- A call that succeeds remembers the position behind it. -/
theorem execute_call_done (hop : i.opcode = .call) (h : i.execute labels m = .done after) :
    after.callStack = m.pc :: m.callStack := by
  rcases execute_done_cases h with ⟨e, hperforms, hplace⟩
  -- The other effects belong to other opcodes.
  cases hperforms with
  | call position _ _ => cases hplace; rfl
  | _ => simp_all [Opcode.storing]

/-- A push that succeeds puts the value of its operand on the data stack. -/
theorem execute_push_done {value : Value} (hop : i.opcode = .push)
    (hvalue : i.HasValue m.frames 0 value) (h : i.execute labels m = .done after) :
    after.dataStack = value :: m.dataStack := by
  rcases execute_done_cases h with ⟨e, hperforms, hplace⟩
  cases hperforms with
  | push found _ hfound =>
    have hsame : found = value := hfound.unique hvalue
    cases hplace
    rw [hsame]
  | _ => simp_all [Opcode.storing]

end Instruction

/-! ## Steps -/

namespace Machine

variable {p : Program} {m after : Machine} {i : Instruction}

/-- An instruction is started in a state, and it ends in another, whether it succeeds or fails. -/
def Executes (p : Program) (m : Machine) (i : Instruction) (after : Machine) : Prop :=
  ∃ outcome, m.dispatch p = some (i, outcome) ∧ after = outcome.machine

theorem Executes.instruction (h : Executes p m i after) : p.instructions[m.pc]? = some i := by
  rcases h with ⟨outcome, hdispatch, -⟩
  exact (dispatch_eq_some_iff.1 hdispatch).1

/-- Either the instruction has an effect, or it leaves the state as it is while it is started. -/
theorem Executes.cases (h : Executes p m i after) :
    (∃ e, i.Performs p.labels m.fetch e ∧ Effect.TakesPlace m.fetch e after) ∨
      m.fetch.Retains after := by
  rcases h with ⟨outcome, hdispatch, rfl⟩
  have hexecute := (dispatch_eq_some_iff.1 hdispatch).2
  cases outcome with
  | done after => exact .inl (Instruction.execute_done_cases hexecute)
  | failed fault after => exact .inr (Instruction.execute_failed_retains hexecute)

/-- What becomes of the program counter and the call stack. -/
inductive Transfers (p : Program) (m : Machine) (i : Instruction) (after : Machine) : Prop
  | next (hpc : after.pc = m.pc + 1) (hstack : after.callStack = m.callStack)
  | jump (hop : i.opcode ∈ [.jump, .jumpIfEqual, .jumpIfNotEqual]) (name : String)
      (hposition : p.labels.position? name = some after.pc)
      (hstack : after.callStack = m.callStack)
  | call (hop : i.opcode = .call) (name : String)
      (hposition : p.labels.position? name = some after.pc)
      (hstack : after.callStack = (m.pc + 1) :: m.callStack)
  | ret (hop : i.opcode = .ret) (hstack : m.callStack = after.pc :: after.callStack)

theorem Executes.transfers (h : Executes p m i after) : Transfers p m i after := by
  rcases h.cases with ⟨e, hperforms, hplace⟩ | hretains
  · -- The program counter is one further already, and only three effects change it or its stack.
    cases hplace with
    | jump position =>
      cases hperforms with
      | jump _ hop hposition =>
        rcases Instruction.destination_eq_ok_iff.1 hposition with ⟨name, -, hname⟩
        exact .jump hop name hname rfl
    | call position =>
      cases hperforms with
      | call _ hop hposition =>
        rcases Instruction.destination_eq_ok_iff.1 hposition with ⟨name, -, hname⟩
        exact .call hop name hname rfl
    | ret position below hstack =>
      cases hperforms with
      | ret hop => exact .ret hop hstack
    | _ => exact .next rfl rfl
  · exact .next hretains.pc hretains.callStack

/-- What becomes of the data stack. -/
inductive Shifts (m : Machine) (i : Instruction) (after : Machine) : Prop
  | keep (hstack : after.dataStack = m.dataStack)
  | push (hop : i.opcode = .push) (value : Value) (hvalue : i.HasValue m.frames 0 value)
      (hstack : after.dataStack = value :: m.dataStack)
  | pop (hop : i.opcode = .pop) (target : Variable) (value : Value)
      (htarget : i.operands[0]? = some (.var target))
      (hstack : m.dataStack = value :: after.dataStack)
      (hframes : m.frames.assign target value = .ok after.frames)

theorem Executes.shifts (h : Executes p m i after) : Shifts m i after := by
  rcases h.cases with ⟨e, hperforms, hplace⟩ | hretains
  · cases hplace with
    | push value =>
      cases hperforms with
      | push _ hop hvalue => exact .push hop value hvalue rfl
    | pop target value below frames hstack hframes =>
      cases hperforms with
      | pop _ hop htarget => exact .pop hop target value htarget hstack hframes
    | _ => exact .keep rfl
  · exact .keep hretains.dataStack

end Machine

end FrameCode
