import FrameCode.Proofs.DocumentGrammar
import FrameCode.Proofs.Effects
import FrameCode.Proofs.FaultOrigin
import FrameCode.Proofs.Runs

/-!
# Loaded programs have no internal faults

An internal fault means that the operands of an instruction do not fit its opcode, or that a
channel fails.  The operands of a loaded program fit, and a channel fails only if it is full or a
line is not text.  So a loaded program that reads text and writes to channels without a limit has no
internal fault, in any run and after any number of failures.

- `Program.Fits`, `Program.fits_of_ofTextBy`: the operands of a loaded program fit
- `Machine.Undisturbed`: the channels of a machine do not fail; every step keeps this
- `Program.calls_ne_internal`: no run of a loaded program returns an internal fault
-/

namespace FrameCode

/-! ## Loaded programs -/

namespace Program

/-- The operands of all instructions fit their opcodes. -/
def Fits (p : Program) : Prop :=
  ∀ i ∈ p.instructions, i.Fits

theorem fits_of_ofElement {root : Markup.Element} {p : Program} (h : ofElement root = .ok p) :
    p.Fits := by
  intro i hi
  rcases exists_reads_of_mem h hi with ⟨e, hreads⟩
  exact hreads.fits

theorem fits_of_ofTextBy {parse? : String → Option Markup.Element} {text : String} {p : Program}
    (h : ofTextBy parse? text = .ok p) : p.Fits := by
  rcases ofTextBy_eq_ok_iff.1 h with ⟨root, -, hroot⟩
  exact fits_of_ofElement hroot

end Program

/-! ## Channels that do not fail -/

namespace Machine

/-- The rest of the input is text, and there is no limit to what can be written. -/
structure Undisturbed (m : Machine) : Prop where
  input : Line.IsText m.input
  output : m.output.room = none
  diagnostics : m.diagnostics.room = none

variable {m : Machine}

theorem Undisturbed.fetch (h : m.Undisturbed) : m.fetch.Undisturbed :=
  ⟨h.input, h.output, h.diagnostics⟩

theorem Undisturbed.withFrames (h : m.Undisturbed) (result : Except Fault Frames) :
    (m.withFrames result).machine.Undisturbed := by
  cases result with
  | ok frames => exact ⟨h.input, h.output, h.diagnostics⟩
  | error fault => exact h

end Machine

theorem Channel.room_write {channel : Channel} (h : channel.room = none) (text : String) :
    (channel.write text).room = none := by
  simp [write, h]

namespace Effect

variable {m : Machine}

/-- No effect disturbs the channels: a line taken from text leaves text. -/
theorem apply_undisturbed (e : Effect) (h : m.Undisturbed) :
    (e.apply m).machine.Undisturbed := by
  have hrest := (Line.isText_next h.input).2
  cases e with
  | skip => exact h
  | assign target value => exact h.withFrames _
  | declare target => exact h.withFrames _
  | pushFrame => exact h.withFrames _
  | popFrame => exact h.withFrames _
  | createFrame | jump position | call position | push value =>
    exact ⟨h.input, h.output, h.diagnostics⟩
  | ret =>
    simp only [apply, Machine.ret]
    split
    next => exact h
    next => exact ⟨h.input, h.output, h.diagnostics⟩
  | pop target =>
    simp only [apply, Machine.pop]
    split
    next => exact h
    next =>
      split
      next => exact h
      next =>
        refine Machine.Undisturbed.withFrames ?_ _
        exact ⟨h.input, h.output, h.diagnostics⟩
  | read target tag =>
    simp only [apply, Machine.readLine]
    split
    next => exact h
    next =>
      split
      next => exact ⟨hrest, h.output, h.diagnostics⟩
      next =>
        refine Machine.Undisturbed.withFrames ?_ _
        exact ⟨hrest, h.output, h.diagnostics⟩
  | write text =>
    simp only [apply, Machine.write]
    split
    next => exact ⟨h.input, Channel.room_write h.output text, h.diagnostics⟩
    next => exact ⟨h.input, Channel.room_write h.output text, h.diagnostics⟩
  | report text =>
    simp only [apply, Machine.report]
    split
    next => exact ⟨h.input, h.output, Channel.room_write h.diagnostics text⟩
    next => exact ⟨h.input, h.output, Channel.room_write h.diagnostics text⟩

/-- An effect has an internal fault only if a channel fails. -/
theorem FailsWith.ne_internal {e : Effect} {fault : Fault} {after : Machine}
    (hfails : FailsWith m e fault after) (h : m.Undisturbed) : fault.errorClass ≠ .internal := by
  cases hfails with
  | refused _ _ hrefuses => exact hrefuses.errorClass_ne
  | notText target tag hline => exact absurd (Line.isText_next h.input).1 hline
  | outputFull text channel hcut =>
    -- A text is cut only where the room has a limit.
    rcases hcut with ⟨kept, lost, -, -, hroom, -⟩
    rw [h.output] at hroom
    cases hroom
  | diagnosticsFull text channel hcut =>
    rcases hcut with ⟨kept, lost, -, -, hroom, -⟩
    rw [h.diagnostics] at hroom
    cases hroom

end Effect

namespace Instruction

variable {i : Instruction} {labels : LabelTable} {m : Machine}

theorem execute_undisturbed (h : m.Undisturbed) : (i.execute labels m).machine.Undisturbed := by
  cases heffect : i.effect labels m with
  | error fault =>
    rw [execute_of_error heffect]
    exact h
  | ok e =>
    rw [execute_of_effect heffect]
    exact e.apply_undisturbed h

theorem execute_ne_internal {fault : Fault} {after : Machine} (hfits : i.Fits)
    (hm : m.Undisturbed) (h : i.execute labels m = .failed fault after) :
    fault.errorClass ≠ .internal := by
  rcases execute_eq_failed_iff.1 h with ⟨hoperands, -⟩ | ⟨e, -, happly⟩
  · intro hclass
    exact (effect_blames i labels m fault hoperands hclass).2 hfits
  · exact (Effect.failsWith_of_apply happly).ne_internal hm

end Instruction

/-! ## Runs -/

namespace Machine

variable {p : Program} {m after : Machine}

theorem Step.undisturbed (hstep : Step p m after) (h : m.Undisturbed) : after.Undisturbed := by
  rcases hstep with ⟨i, outcome, hdispatch, rfl⟩
  rcases dispatch_eq_some_iff.1 hdispatch with ⟨-, rfl⟩
  exact Instruction.execute_undisturbed h.fetch

theorem dispatch_ne_internal {i : Instruction} {fault : Fault} (hp : p.Fits) (hm : m.Undisturbed)
    (h : m.dispatch p = some (i, .failed fault after)) : fault.errorClass ≠ .internal := by
  rcases dispatch_eq_some_iff.1 h with ⟨hi, hfailed⟩
  have hfits : i.Fits := hp i (Array.mem_of_getElem? hi)
  exact Instruction.execute_ne_internal hfits hm.fetch hfailed

end Machine

namespace Program

/-- No run of a loaded program returns an internal fault, if the input is text and the channels have
no limit.  This holds for every run after a failed one, too, and however the text of the program has
been read. -/
theorem calls_ne_internal (parse? : String → Option Markup.Element) (text : String) (p : Program)
    (input : List UInt8) (output diagnostics : Channel) (results : List (Option RuntimeError))
    (after : Machine) (hload : ofTextBy parse? text = .ok p) (hinput : Line.IsText input)
    (houtput : output.room = none) (hdiagnostics : diagnostics.room = none)
    (hcalls : Machine.Calls p (.initial input output diagnostics) results after)
    (e : RuntimeError) (he : some e ∈ results) : e.fault.errorClass ≠ .internal := by
  have hstart : (Machine.initial input output diagnostics).Undisturbed :=
    ⟨hinput, houtput, hdiagnostics⟩
  -- The error comes from some state on the way, and the channels are as good there as at the start.
  rcases hcalls.exists_ends he with ⟨last, next, hreaches, hends⟩
  have hlast : last.Undisturbed := hreaches.invariant Machine.Step.undisturbed hstart
  cases hends with
  | failed i fault _ hfailed =>
    exact Machine.dispatch_ne_internal (fits_of_ofTextBy hload) hlast hfailed

/-- A program whose only instruction fails is run twice: the second run finds its end. -/
theorem calls_ne_internal_resumed :
    ∃ (p : Program) (e : RuntimeError) (after : Machine),
      ofText ("<program language=\"IPPcode18\"><instruction order=\"1\" opcode=\"READ\">" ++
        "<arg1 type=\"var\">GF@x</arg1><arg2 type=\"type\">string</arg2></instruction>" ++
        "</program>") = .ok p ∧
      Machine.Calls p (.initial [0xc5, 0xbe, 0x0a] (.ofRoom none) (.ofRoom none))
        [some e, none] after ∧
      e.fault.errorClass ≠ .internal := by
  have hload : ofText
        ("<program language=\"IPPcode18\"><instruction order=\"1\" opcode=\"READ\">" ++
        "<arg1 type=\"var\">GF@x</arg1><arg2 type=\"type\">string</arg2></instruction>" ++
        "</program>") =
      .ok ⟨#[⟨.read, .ofInt 1, [.var ⟨.global, "x"⟩, .literal (.type .string)]⟩], .empty⟩ := by
    decide +kernel
  have hinput : Line.IsText [0xc5, 0xbe, 0x0a] := ⟨['ž', '\n'], rfl⟩
  have hcalls : Machine.Calls
      ⟨#[⟨.read, .ofInt 1, [.var ⟨.global, "x"⟩, .literal (.type .string)]⟩], .empty⟩
      (.initial [0xc5, 0xbe, 0x0a] (.ofRoom none) (.ofRoom none))
      [some ⟨.undefinedVariable ⟨.global, "x"⟩, .ofInt 1⟩, none] _ :=
    .cons 1 rfl (.cons 1 rfl (.nil _))
  have hclass := calls_ne_internal _ _ _ _ _ _ _ _ hload hinput rfl rfl hcalls _ (.head _)
  exact ⟨_, _, _, hload, hcalls, hclass⟩

end Program

end FrameCode
