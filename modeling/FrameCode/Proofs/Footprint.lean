import FrameCode.Proofs.ErrorLocation
import FrameCode.Proofs.LocalFrames

/-!
# What an instruction leaves alone

An instruction that succeeds changes few parts of the machine, and its opcode tells which.  Among
the frames it can only reach the one that its first operand names, and there only one slot.

- `Place`, `Frames.slotAt?`: every slot of every frame, also of the local frames below the top
- `Frames.KeepsBut`: all slots but that of one variable are the same
- `Frames.Gains`, `Frames.Overwrites`: a new slot without a value, and a new value in a slot
- `Instruction.FrameChange`: what an opcode may do to the frames
- `Instruction.Footprint`: what an opcode may do to the machine
- `Instruction.execute_footprint`: every instruction that succeeds keeps to this
-/

namespace FrameCode

/-! ## Slots of all frames -/

/-- Where a frame is: the local frames are counted from the top. -/
inductive Place where
  | global
  | temporary
  | level (depth : Nat)
  deriving DecidableEq, Repr

/-- Only the top one of the local frames has a scope. -/
def Scope.place : Scope → Place
  | global => .global
  | current => .level 0
  | temporary => .temporary

theorem Scope.place_injective {s t : Scope} (h : s.place = t.place) : s = t := by
  cases s <;> cases t <;> simp_all [place]

/-- Different variables have different slots. -/
theorem Variable.slot_ne {v w : Variable} (h : w ≠ v) :
    ¬ (w.scope.place = v.scope.place ∧ w.name = v.name) := by
  rintro ⟨hplace, hname⟩
  have hscope : w.scope = v.scope := Scope.place_injective hplace
  cases w
  cases v
  exact h (congrArg₂ Variable.mk hscope hname)

namespace Frames

/-- The frame at a place, if there is one. -/
def frameAt? (frames : Frames) : Place → Option Frame
  | .global => some frames.global
  | .temporary => frames.temporary
  | .level depth => frames.locals[depth]?

/-- The slot of a name at a place: absent if the frame does not exist or does not declare the
name, empty if it holds no value. -/
def slotAt? (frames : Frames) (place : Place) (name : String) : Option (Option Value) :=
  (frames.frameAt? place).bind (·.slot? name)

/-- The same frames exist, and all their slots but that of one variable are the same. -/
structure KeepsBut (frames after : Frames) (v : Variable) : Prop where
  depth : after.locals.length = frames.locals.length
  existing : ∀ place, (after.frameAt? place).isSome = (frames.frameAt? place).isSome
  slots : ∀ place name, ¬ (place = v.scope.place ∧ name = v.name) →
    after.slotAt? place name = frames.slotAt? place name

/-- One variable is declared without a value. -/
structure Gains (frames after : Frames) (v : Variable) : Prop where
  keeps : frames.KeepsBut after v
  undeclared : frames.Lacks v
  unassigned : after.Holds v none

/-- One variable that was declared holds a value, and no frame has other names than before. -/
structure Overwrites (frames after : Frames) (v : Variable) (value : Value) : Prop where
  keeps : frames.KeepsBut after v
  declared : frames.Declares v
  holds : after.Holds v (some value)
  names : ∀ place name,
    (after.slotAt? place name).isSome = (frames.slotAt? place name).isSome

variable {frames after : Frames} {v : Variable}

theorem frameAt?_place (frames : Frames) (scope : Scope) :
    frames.frameAt? scope.place = frames.frame? scope := by
  cases scope with
  | global => rfl
  | temporary => rfl
  | current => exact List.head?_eq_getElem?.symm

/-- Replacing the frame of a scope leaves the frames at other places. -/
theorem frameAt?_setFrame_of_ne {scope : Scope} {old : Frame}
    (h : frames.frame? scope = some old) (frame : Frame) {place : Place}
    (hplace : place ≠ scope.place) :
    (frames.setFrame scope frame).frameAt? place = frames.frameAt? place := by
  cases scope with
  | global =>
    cases place with
    | global => exact absurd rfl hplace
    | temporary | level _ => rfl
  | temporary =>
    cases place with
    | temporary => exact absurd rfl hplace
    | global | level _ => rfl
  | current =>
    cases place with
    | global | temporary => rfl
    | level depth =>
      cases depth with
      | zero => exact absurd rfl hplace
      | succ depth =>
        -- Below the top there is the same as before.
        rcases List.head?_eq_some_iff.1 h with ⟨below, hbelow⟩
        simp only [setFrame, frameAt?, hbelow, List.tail_cons, List.getElem?_cons_succ]

theorem keepsBut_setFrame {frame : Frame} (h : frames.frame? v.scope = some frame)
    (content : Option Value) :
    frames.KeepsBut (frames.setFrame v.scope (frame.put v.name content)) v where
  depth := (protects_setFrame h _).depth
  existing := by
    intro place
    by_cases hplace : place = v.scope.place
    · subst hplace
      rw [frameAt?_place, frameAt?_place, frame?_setFrame_self, h, Option.isSome_some,
        Option.isSome_some]
    · rw [frameAt?_setFrame_of_ne h _ hplace]
  slots := by
    intro place name hother
    unfold slotAt?
    by_cases hplace : place = v.scope.place
    · -- In the frame itself the other names keep their slots.
      subst hplace
      have hname : name ≠ v.name := fun hname => hother ⟨rfl, hname⟩
      rw [frameAt?_place, frameAt?_place, frame?_setFrame_self, h, Option.bind_some,
        Option.bind_some, Frame.slot?_put_of_ne frame content hname]
    · rw [frameAt?_setFrame_of_ne h _ hplace]

theorem Holds.slotAt? {content : Option Value} (h : frames.Holds v content) :
    frames.slotAt? v.scope.place v.name = some content := by
  rcases h with ⟨frame, hframe, hslot⟩
  rw [Frames.slotAt?, frameAt?_place, hframe, Option.bind_some, hslot]

theorem gains_of_declare (h : frames.declare v = .ok after) : frames.Gains after v := by
  have hlacks : frames.Lacks v := exists_declare_iff.1 ⟨after, h⟩
  rcases declare_eq_ok_iff.1 h with ⟨frame, hframe, -, rfl⟩
  refine ⟨keepsBut_setFrame hframe none, hlacks, ?_⟩
  exact ⟨_, frame?_setFrame_self frames v.scope _, Frame.slot?_put_self frame v.name none⟩

theorem overwrites_of_assign {value : Value} (h : frames.assign v value = .ok after) :
    frames.Overwrites after v value := by
  have hdeclared : frames.Declares v := (exists_assign_iff value).1 ⟨after, h⟩
  have hholds : after.Holds v (some value) := holds_of_assign h
  have hkeeps : frames.KeepsBut after v := by
    rcases assign_eq_ok_iff.1 h with ⟨frame, hframe, -, rfl⟩
    exact keepsBut_setFrame hframe (some value)
  refine ⟨hkeeps, hdeclared, hholds, ?_⟩
  intro place name
  by_cases hsame : place = v.scope.place ∧ name = v.name
  · -- The variable was declared before and still is.
    rcases hsame with ⟨rfl, rfl⟩
    rcases hdeclared with ⟨content, hcontent⟩
    rw [hholds.slotAt?, hcontent.slotAt?, Option.isSome_some, Option.isSome_some]
  · rw [hkeeps.slots place name hsame]

end Frames

/-! ## The parts of the machine -/

/-- A channel has the bytes of another one, and maybe more behind them. -/
def Channel.Extends (channel after : Channel) : Prop :=
  ∃ bytes : ByteArray, after.written = channel.written ++ bytes

theorem Channel.Extends.refl (channel : Channel) : channel.Extends channel :=
  ⟨.empty, ByteArray.append_empty.symm⟩

theorem Channel.extends_write (channel : Channel) (text : String) :
    channel.Extends (channel.write text) :=
  ⟨channel.accepted text, rfl⟩

namespace Effect.TakesPlace

variable {m after : Machine} {e : Effect}

theorem outputGrows (h : e.TakesPlace m after) : m.output.Extends after.output := by
  cases h with
  | write text _ => exact m.output.extends_write text
  | _ => exact .refl m.output

theorem diagnosticsGrow (h : e.TakesPlace m after) : m.diagnostics.Extends after.diagnostics := by
  cases h with
  | report text _ => exact m.diagnostics.extends_write text
  | _ => exact .refl m.diagnostics

end Effect.TakesPlace

namespace Instruction

/-- What an instruction may do to the frames.  Beyond the instructions for frames and declarations,
it is at most a new value for the variable that the first operand names. -/
def FrameChange (i : Instruction) (frames after : Frames) : Prop :=
  match i.opcode with
  | .createFrame => after = { frames with temporary := some .empty }
  | .pushFrame => ∃ frame, frames.temporary = some frame ∧
      after = { frames with locals := frame :: frames.locals, temporary := none }
  | .popFrame => ∃ frame below, frames.locals = frame :: below ∧
      after = { frames with locals := below }
  | .declare => ∃ v, i.operands[0]? = some (.var v) ∧ frames.Gains after v
  | _ => after = frames ∨ ∃ v value, i.operands[0]? = some (.var v) ∧
      frames.Overwrites after v value

/-- What an instruction may do to the machine. -/
structure Footprint (i : Instruction) (m after : Machine) : Prop where
  executed : after.executed = m.executed
  pc : i.opcode.isJump = false → after.pc = m.pc
  callStack : i.opcode ∉ [.call, .ret] → after.callStack = m.callStack
  dataStack : i.opcode ∉ [.push, .pop] → after.dataStack = m.dataStack
  input : i.opcode ≠ .read → after.input = m.input
  output : i.opcode ≠ .write → after.output = m.output
  diagnostics : i.opcode ∉ [.debugWrite, .debugDump] → after.diagnostics = m.diagnostics
  /-- Nothing that has been written is taken back. -/
  outputGrows : m.output.Extends after.output
  diagnosticsGrow : m.diagnostics.Extends after.diagnostics
  frames : i.FrameChange m.frames after.frames

variable {i : Instruction} {labels : LabelTable} {m after : Machine} {e : Effect}

namespace Performs

theorem pc_eq (hperforms : i.Performs labels m e) (hplace : e.TakesPlace m after)
    (hop : i.opcode.isJump = false) : after.pc = m.pc := by
  cases hplace with
  | jump _ | call _ | ret _ _ _ => cases hperforms; simp_all [Opcode.isJump]
  | _ => rfl

theorem callStack_eq (hperforms : i.Performs labels m e) (hplace : e.TakesPlace m after)
    (hop : i.opcode ∉ [.call, .ret]) : after.callStack = m.callStack := by
  cases hplace with
  | call _ | ret _ _ _ => cases hperforms; simp_all
  | _ => rfl

theorem dataStack_eq (hperforms : i.Performs labels m e) (hplace : e.TakesPlace m after)
    (hop : i.opcode ∉ [.push, .pop]) : after.dataStack = m.dataStack := by
  cases hplace with
  | push _ | pop _ _ _ _ _ _ => cases hperforms; simp_all
  | _ => rfl

theorem input_eq (hperforms : i.Performs labels m e) (hplace : e.TakesPlace m after)
    (hop : i.opcode ≠ .read) : after.input = m.input := by
  cases hplace with
  | read _ _ _ _ _ _ => cases hperforms; contradiction
  | _ => rfl

theorem output_eq (hperforms : i.Performs labels m e) (hplace : e.TakesPlace m after)
    (hop : i.opcode ≠ .write) : after.output = m.output := by
  cases hplace with
  | write _ _ => cases hperforms; contradiction
  | _ => rfl

theorem diagnostics_eq (hperforms : i.Performs labels m e) (hplace : e.TakesPlace m after)
    (hop : i.opcode ∉ [.debugWrite, .debugDump]) : after.diagnostics = m.diagnostics := by
  cases hplace with
  | report _ _ => cases hperforms <;> simp_all
  | _ => rfl

end Performs

theorem Performs.frameChange (hperforms : i.Performs labels m e) (hplace : e.TakesPlace m after) :
    i.FrameChange m.frames after.frames := by
  unfold FrameChange
  -- In the first four cases the effects of other opcodes are ruled out, in the last one theirs.
  split
  next hop =>
    cases hperforms with
    | createFrame _ => cases hplace; rfl
    | _ => simp_all [Opcode.storing]
  next hop =>
    cases hperforms with
    | pushFrame _ =>
      cases hplace with
      | pushFrame frames hframes => exact Frames.pushTemporary_eq_ok_iff.1 hframes
    | _ => simp_all [Opcode.storing]
  next hop =>
    cases hperforms with
    | popFrame _ =>
      cases hplace with
      | popFrame frame frames hframes => exact ⟨frame, Frames.popLocal_eq_ok_iff.1 hframes⟩
    | _ => simp_all [Opcode.storing]
  next hop =>
    cases hperforms with
    | declare v _ hv =>
      cases hplace with
      | declare _ frames hframes => exact ⟨v, hv, Frames.gains_of_declare hframes⟩
    | _ => simp_all [Opcode.storing]
  next hcreate hpush hpop hdeclare =>
    cases hplace with
    | createFrame =>
      cases hperforms with
      | createFrame hop => exact absurd hop hcreate
    | pushFrame _ _ =>
      cases hperforms with
      | pushFrame hop => exact absurd hop hpush
    | popFrame _ _ _ =>
      cases hperforms with
      | popFrame hop => exact absurd hop hpop
    | declare _ _ _ =>
      cases hperforms with
      | declare _ hop _ => exact absurd hop hdeclare
    | assign v value _ hframes =>
      cases hperforms with
      | assign _ _ _ hv => exact .inr ⟨v, value, hv, Frames.overwrites_of_assign hframes⟩
    | pop v value _ _ _ hframes =>
      cases hperforms with
      | pop _ _ hv => exact .inr ⟨v, value, hv, Frames.overwrites_of_assign hframes⟩
    | read v _ _ _ _ hframes =>
      cases hperforms with
      | read _ _ _ hv _ => exact .inr ⟨v, _, hv, Frames.overwrites_of_assign hframes⟩
    | _ => exact .inl rfl

/-- An instruction that succeeds changes only what its opcode may change. -/
theorem execute_footprint (i : Instruction) (labels : LabelTable) (m after : Machine)
    (h : i.execute labels m = .done after) : i.Footprint m after := by
  rcases execute_done_cases h with ⟨e, hperforms, hplace⟩
  exact
    { executed := hplace.executed
      pc := hperforms.pc_eq hplace
      callStack := hperforms.callStack_eq hplace
      dataStack := hperforms.dataStack_eq hplace
      input := hperforms.input_eq hplace
      output := hperforms.output_eq hplace
      diagnostics := hperforms.diagnostics_eq hplace
      outputGrows := hplace.outputGrows
      diagnosticsGrow := hplace.diagnosticsGrow
      frames := hperforms.frameChange hplace }

/-- Of three variables with one name, a pop changes the one in the top local frame. -/
theorem execute_footprint_pop :
    ∃ after : Machine,
      (⟨.pop, .zero, [.var ⟨.current, "x"⟩]⟩ : Instruction).execute .empty
          ⟨⟨Frame.empty.put "x" none, [Frame.empty.put "x" none, Frame.empty.put "x" none], none⟩,
            [3], [.int 5, .bool true], 2, 2, [0x61], .ofRoom none, .ofRoom none⟩ = .done after ∧
        (⟨.pop, .zero, [.var ⟨.current, "x"⟩]⟩ : Instruction).Footprint
          ⟨⟨Frame.empty.put "x" none, [Frame.empty.put "x" none, Frame.empty.put "x" none], none⟩,
            [3], [.int 5, .bool true], 2, 2, [0x61], .ofRoom none, .ofRoom none⟩ after ∧
        after.frames = ⟨Frame.empty.put "x" none,
          [Frame.empty.put "x" (some (.int 5)), Frame.empty.put "x" none], none⟩ := by
  refine ⟨_, rfl, ?_, rfl⟩
  exact execute_footprint _ .empty _ _ rfl

end Instruction
end FrameCode
