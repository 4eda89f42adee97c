import FrameCode.Proofs.Effects
import FrameCode.Proofs.FaultOrigin

/-!
# Failed instructions leave nothing behind

An instruction goes step by step, and a step may fail after others have changed the machine.  Still,
an instruction that fails leaves frames, stacks and counters as they were.  Only a channel that
fails in the middle of an instruction shows it: a line that is not text has been consumed, or a part
of a text has been written.

- `Instruction.Interrupted`: what is left of an instruction that a channel has stopped
- `Instruction.execute_failed_atomic`: a failed instruction has no other effect
-/

namespace FrameCode
namespace Instruction

/-- What an instruction reports to the diagnostics. -/
def Reports (i : Instruction) (m : Machine) (text : String) : Prop :=
  (i.opcode = .debugWrite ∧ ∃ value, i.HasValue m.frames 0 value ∧ text = value.text) ∨
    (i.opcode = .debugDump ∧ text = i.dump m)

/-- The state after an instruction that a channel has stopped.  A read has consumed one line; a
write or a report has written the beginning of its text. -/
inductive Interrupted (i : Instruction) (m : Machine) : Machine → Prop
  | read (line rest : List UInt8) (hop : i.opcode = .read) (hinput : m.input = line ++ rest)
      (hline : line ≠ []) (hfirst : Line.IsFirst line rest) :
      Interrupted i m { m with input := rest }
  | write (value : Value) (after : Channel) (hop : i.opcode = .write)
      (hvalue : i.HasValue m.frames 0 value) (hcut : m.output.Cuts value.text after) :
      Interrupted i m { m with output := after }
  | report (text : String) (after : Channel) (hreports : i.Reports m text)
      (hcut : m.diagnostics.Cuts text after) :
      Interrupted i m { m with diagnostics := after }

/-- What a failed instruction leaves behind. -/
structure Atomic (i : Instruction) (m : Machine) (fault : Fault) (after : Machine) : Prop where
  frames : after.frames = m.frames
  callStack : after.callStack = m.callStack
  dataStack : after.dataStack = m.dataStack
  pc : after.pc = m.pc
  executed : after.executed = m.executed
  channels : (∀ failure, fault ≠ .channel failure) →
    after.input = m.input ∧ after.output = m.output ∧ after.diagnostics = m.diagnostics
  interrupted : ∀ failure, fault = .channel failure → i.Interrupted m after

variable {i : Instruction} {labels : LabelTable} {m after : Machine} {fault : Fault}

/-- A fault that does not come from a channel, with the state unchanged. -/
theorem Atomic.unchanged (h : ∀ failure, fault ≠ .channel failure) : i.Atomic m fault m where
  frames := rfl
  callStack := rfl
  dataStack := rfl
  pc := rfl
  executed := rfl
  channels := fun _ => ⟨rfl, rfl, rfl⟩
  interrupted := fun failure hfault => absurd hfault (h failure)

/-- A channel has stopped the instruction, and nothing but a channel has changed. -/
theorem Interrupted.atomic {failure : ChannelFailure} (h : i.Interrupted m after) :
    i.Atomic m (.channel failure) after := by
  have hchannels : ¬ ∀ other, Fault.channel failure ≠ .channel other := fun hne => hne failure rfl
  cases h with
  | read line rest hop hinput hline hfirst =>
    exact ⟨rfl, rfl, rfl, rfl, rfl, fun hne => absurd hne hchannels,
      fun _ _ => .read line rest hop hinput hline hfirst⟩
  | write value channel hop hvalue hcut =>
    exact ⟨rfl, rfl, rfl, rfl, rfl, fun hne => absurd hne hchannels,
      fun _ _ => .write value channel hop hvalue hcut⟩
  | report text channel hreports hcut =>
    exact ⟨rfl, rfl, rfl, rfl, rfl, fun hne => absurd hne hchannels,
      fun _ _ => .report text channel hreports hcut⟩

/-! ## Faults and channels -/

theorem ne_channel_of_errorClass (h : fault.errorClass ≠ .internal) (failure : ChannelFailure) :
    fault ≠ .channel failure := by
  intro hfault
  subst hfault
  simp [Fault.errorClass] at h

/-- No channel is used while the operands are looked up. -/
theorem effect_ne_channel (h : i.effect labels m = .error fault) (failure : ChannelFailure) :
    fault ≠ .channel failure := by
  -- The only internal fault of a look-up is that of operands that do not fit.
  by_cases hclass : fault.errorClass = .internal
  · have hmalformed := (effect_blames i labels m fault h hclass).1
    simp [hmalformed]
  · exact ne_channel_of_errorClass hclass failure

/-- At the end of the input nothing can fail to be text, so a line has been consumed. -/
theorem interrupted_read (hop : i.opcode = .read) (hline : ¬ Line.IsText (Line.next m.input).1) :
    i.Interrupted m { m with input := (Line.next m.input).2 } := by
  have hsplit : m.input = (Line.next m.input).1 ++ (Line.next m.input).2 :=
    (Line.next_append m.input).symm
  have hnonempty : (Line.next m.input).1 ≠ [] := by
    intro hempty
    rw [hempty] at hline
    exact hline Line.isText_nil
  exact .read _ _ hop hsplit hnonempty (Line.next_isFirst m.input)

/-- An effect of an instruction that fails does so atomically. -/
theorem Performs.atomic {e : Effect} (hperforms : i.Performs labels m e)
    (hfails : Effect.FailsWith m e fault after) : i.Atomic m fault after := by
  -- Only three effects use a channel, and each of them belongs to few opcodes.
  cases hfails with
  | refused _ _ hrefuses => exact .unchanged (ne_channel_of_errorClass hrefuses.errorClass_ne)
  | notText target tag hline =>
    cases hperforms with
    | read _ _ hop _ _ => exact (interrupted_read hop hline).atomic
  | outputFull text channel hcut =>
    cases hperforms with
    | write value hop hvalue => exact (Interrupted.write value channel hop hvalue hcut).atomic
  | diagnosticsFull text channel hcut =>
    have hreports : i.Reports m text := by
      cases hperforms with
      | reportValue value hop hvalue => exact .inl ⟨hop, value, hvalue, rfl⟩
      | reportState hop => exact .inr ⟨hop, rfl⟩
    exact (Interrupted.report text channel hreports hcut).atomic

/-- A failed instruction leaves nothing behind, except for what has passed through the one channel
that failed. -/
theorem execute_failed_atomic (i : Instruction) (labels : LabelTable) (m : Machine)
    (h : i.execute labels m = .failed fault after) : i.Atomic m fault after := by
  rcases execute_eq_failed_iff.1 h with ⟨hoperands, rfl⟩ | ⟨e, heffect, happly⟩
  · -- The operands were looked up and nothing has been done yet.
    exact .unchanged (effect_ne_channel hoperands)
  · exact (effect_performs heffect).atomic (Effect.failsWith_of_apply happly)

/-- A character of two bytes is cut where the output has room for one. -/
theorem execute_write_cut :
    ∃ after : Machine,
      (⟨.write, .zero, [.literal (.string "ž")]⟩ : Instruction).execute .empty
          (.initial [] (.ofRoom (some 1)) (.ofRoom none)) = .failed (.channel .full) after ∧
        (⟨.write, .zero, [.literal (.string "ž")]⟩ : Instruction).Atomic
          (.initial [] (.ofRoom (some 1)) (.ofRoom none)) (.channel .full) after ∧
        after.output.written = ⟨#[0xc5]⟩ := by
  refine ⟨_, rfl, ?_, rfl⟩
  exact execute_failed_atomic _ .empty _ rfl

end Instruction
end FrameCode
