import FrameCode.Proofs.StackDiscipline

/-!
# The isolation of local frames

Only the local frame on top can be used, so a frame that is pushed protects those below it.  They
come back unchanged with the pop that belongs to the push, whatever has been executed in between.

Unlike the other two stacks, this one has a top that can be changed where it lies: an invariant
about it must leave the top open.

- `Frames.Protects`: nothing but the top local frame is different
- `Machine.Reframes`: what becomes of the frames when an instruction is executed
- `Frames.Covers`: some frames lie below the top one; every instruction inside a segment keeps this
- `Machine.segments_restore_locals`: a push of a frame with its pop
-/

namespace FrameCode

/-! ## Frames -/

namespace Frames

variable {frames after : Frames} {below : List Frame}

/-- The local frames are as many as before, and those below the top are the same. -/
structure Protects (frames after : Frames) : Prop where
  depth : after.locals.length = frames.locals.length
  below : after.locals.tail = frames.locals.tail

theorem protects_of_locals_eq (h : after.locals = frames.locals) : frames.Protects after :=
  ⟨congrArg List.length h, congrArg List.tail h⟩

/-- A frame that exists is replaced at the top, or it is no local frame at all. -/
theorem protects_setFrame {scope : Scope} {old : Frame} (h : frames.frame? scope = some old)
    (frame : Frame) : frames.Protects (frames.setFrame scope frame) := by
  cases scope with
  | global => exact protects_of_locals_eq rfl
  | temporary => exact protects_of_locals_eq rfl
  | current =>
    rcases List.head?_eq_some_iff.1 h with ⟨tail, htail⟩
    refine ⟨?_, rfl⟩
    simp only [setFrame, htail, List.tail_cons, List.length_cons]

theorem protects_assign {v : Variable} {value : Value} (h : frames.assign v value = .ok after) :
    frames.Protects after := by
  rcases assign_eq_ok_iff.1 h with ⟨frame, hframe, -, rfl⟩
  exact protects_setFrame hframe _

theorem protects_declare {v : Variable} (h : frames.declare v = .ok after) :
    frames.Protects after := by
  rcases declare_eq_ok_iff.1 h with ⟨frame, hframe, -, rfl⟩
  exact protects_setFrame hframe _

theorem pushTemporary_eq_ok_iff :
    frames.pushTemporary = .ok after ↔
      ∃ frame, frames.temporary = some frame ∧
        after = { frames with locals := frame :: frames.locals, temporary := none } := by
  unfold pushTemporary
  cases frames.temporary <;> simp [eq_comm]

theorem popLocal_eq_ok_iff {frame : Frame} :
    frames.popLocal = .ok (frame, after) ↔
      ∃ below, frames.locals = frame :: below ∧ after = { frames with locals := below } := by
  unfold popLocal
  cases frames.locals <;> simp [eq_comm]

/-- Some frames lie below the top local frame, as the lowest of all. -/
def Covers (frames : Frames) (below : List Frame) : Prop :=
  ∃ top upper, frames.locals = top :: (upper ++ below)

theorem Covers.length_lt (h : frames.Covers below) : below.length < frames.locals.length := by
  rcases h with ⟨top, upper, hlocals⟩
  rw [hlocals, List.length_cons, List.length_append]
  omega

/-- What lies below the top is not touched by a change of the top. -/
theorem Covers.protected (h : frames.Covers below) (hprotects : frames.Protects after) :
    after.Covers below := by
  rcases h with ⟨top, upper, hlocals⟩
  have hdepth := hprotects.depth
  have hbelow := hprotects.below
  rw [hlocals] at hdepth hbelow
  rcases List.exists_cons_of_length_eq_add_one hdepth with ⟨top', tail, hafter⟩
  rw [hafter] at hbelow
  exact ⟨top', upper, hafter.trans (congrArg (top' :: ·) hbelow)⟩

theorem Covers.pushed (h : frames.Covers below) {frame : Frame}
    (hlocals : after.locals = frame :: frames.locals) : after.Covers below := by
  rcases h with ⟨top, upper, hbefore⟩
  exact ⟨frame, top :: upper, hlocals.trans (congrArg (frame :: ·) hbefore)⟩

/-- A frame that is taken off was above the ones below, or it was the last one above them. -/
theorem Covers.popped (h : frames.Covers below) {frame : Frame}
    (hlocals : frames.locals = frame :: after.locals) :
    after.Covers below ∨ after.locals = below := by
  rcases h with ⟨top, upper, hbefore⟩
  have hrest : after.locals = upper ++ below := (List.cons.inj (hlocals.symm.trans hbefore)).2
  cases upper with
  | nil => exact .inr hrest
  | cons next upper => exact .inl ⟨next, upper, hrest⟩

end Frames

/-! ## Instructions -/

namespace Instruction

variable {i : Instruction} {labels : LabelTable} {m after : Machine}

/-- A push of the temporary frame that succeeds puts it onto the local frames. -/
theorem execute_pushFrame_done (hop : i.opcode = .pushFrame)
    (h : i.execute labels m = .done after) :
    ∃ frame, after.frames.locals = frame :: m.frames.locals := by
  rcases execute_done_cases h with ⟨e, hperforms, hplace⟩
  cases hperforms with
  | pushFrame _ =>
    cases hplace with
    | pushFrame frames hframes =>
      rcases Frames.pushTemporary_eq_ok_iff.1 hframes with ⟨frame, -, rfl⟩
      exact ⟨frame, rfl⟩
  | _ => simp_all [Opcode.storing]

end Instruction

namespace Machine

variable {p : Program} {m last after : Machine} {i j : Instruction}

/-- What becomes of the frames. -/
inductive Reframes (m : Machine) (i : Instruction) (after : Machine) : Prop
  | keep (hframes : m.frames.Protects after.frames)
  | push (hop : i.opcode = .pushFrame) (frame : Frame)
      (hlocals : after.frames.locals = frame :: m.frames.locals)
  | pop (hop : i.opcode = .popFrame) (frame : Frame)
      (hlocals : m.frames.locals = frame :: after.frames.locals)
      (hglobal : after.frames.global = m.frames.global)
      (htemporary : after.frames.temporary = m.frames.temporary)

theorem Executes.reframes (h : Executes p m i after) : Reframes m i after := by
  rcases h.cases with ⟨e, hperforms, hplace⟩ | hretains
  · cases hplace with
    | assign _ _ _ hframes => exact .keep (Frames.protects_assign hframes)
    | declare _ _ hframes => exact .keep (Frames.protects_declare hframes)
    | pop _ _ _ _ _ hframes => exact .keep (Frames.protects_assign hframes)
    | read _ _ _ _ _ hframes => exact .keep (Frames.protects_assign hframes)
    | pushFrame frames hframes =>
      cases hperforms with
      | pushFrame hop =>
        rcases Frames.pushTemporary_eq_ok_iff.1 hframes with ⟨frame, -, rfl⟩
        exact .push hop frame rfl
    | popFrame frame frames hframes =>
      cases hperforms with
      | popFrame hop =>
        rcases Frames.popLocal_eq_ok_iff.1 hframes with ⟨below, hlocals, rfl⟩
        exact .pop hop frame hlocals rfl rfl
    -- Nothing else reaches the local frames; a new temporary frame is none of them.
    | _ => exact .keep (Frames.protects_of_locals_eq rfl)
  · exact .keep (Frames.protects_of_locals_eq (congrArg Frames.locals hretains.frames))

/-! ## Segments -/

/-- Frames below the top stay there as long as no pop brings the local frames back to them. -/
theorem Executes.covers {below : List Frame} (h : Executes p m i after)
    (hopen : ¬ (i.opcode = .popFrame ∧ after.frames.locals.length = below.length))
    (hm : m.frames.Covers below) : after.frames.Covers below := by
  cases h.reframes with
  | keep hframes => exact hm.protected hframes
  | push _ frame hlocals => exact hm.pushed hlocals
  | pop hop frame hlocals _ _ =>
    rcases hm.popped hlocals with hcovers | hbelow
    · exact hcovers
    · exact absurd ⟨hop, congrArg List.length hbelow⟩ hopen

/-- From a push of the temporary frame to the first pop of a local frame that brings the local
frames back to their depth: the local frames are those of before, and the pop itself leaves the
global and the temporary frame as they are. -/
theorem segments_restore_locals (p : Program) (m opened last after : Machine) (i j : Instruction)
    (hdispatch : m.dispatch p = some (i, .done opened)) (hop : i.opcode = .pushFrame)
    (huntil : Until p (fun i after => i.opcode = .popFrame ∧
      after.frames.locals.length = m.frames.locals.length) opened last j after) :
    after.frames.locals = m.frames.locals ∧ after.frames.temporary = last.frames.temporary ∧
      after.frames.global = last.frames.global := by
  rcases dispatch_eq_some_iff.1 hdispatch with ⟨-, hexecute⟩
  rcases Instruction.execute_pushFrame_done hop hexecute with ⟨pushed, hopened⟩
  have hstart : opened.frames.Covers m.frames.locals := ⟨pushed, [], hopened⟩
  rcases huntil.invariant Executes.covers hstart with ⟨hlast, hexecutes, -, hdepth⟩
  have hdeeper : m.frames.locals.length < last.frames.locals.length := hlast.length_lt
  cases hexecutes.reframes with
  | keep hframes =>
    -- The depth goes down with the last instruction, so it is neither this case nor the next.
    have hsame : after.frames.locals.length = last.frames.locals.length := hframes.depth
    omega
  | push _ frame hlocals =>
    have hgrown : after.frames.locals.length = last.frames.locals.length + 1 :=
      congrArg List.length hlocals
    omega
  | pop _ frame hlocals hglobal htemporary =>
    refine ⟨?_, htemporary, hglobal⟩
    rcases hlast.popped hlocals with hcovers | hbelow
    · exact absurd hdepth (Nat.ne_of_gt hcovers.length_lt)
    · exact hbelow

/-- A variable of the same name is declared in the new frame, another frame is pushed on it and
popped, and an instruction fails in between. -/
theorem segments_restore_locals_nested :
    ∃ (p : Program) (m opened last after : Machine) (i j : Instruction),
      m.dispatch p = some (i, .done opened) ∧ i.opcode = .pushFrame ∧
      Until p (fun i after => i.opcode = .popFrame ∧
        after.frames.locals.length = m.frames.locals.length) opened last j after ∧
      m.frames.locals = [Frame.empty.put "x" (some (.int 5))] ∧
      last.frames.locals = [Frame.empty.put "x" none, Frame.empty.put "x" (some (.int 5))] ∧
      after.frames.locals = m.frames.locals ∧ after.frames.temporary = last.frames.temporary ∧
      after.frames.global = last.frames.global := by
  have hsegment : ∃ last after j, last.frames.locals =
        [Frame.empty.put "x" none, Frame.empty.put "x" (some (.int 5))] ∧ Until
      ⟨#[⟨.pushFrame, .ofInt 1, []⟩, ⟨.declare, .ofInt 2, [.var ⟨.current, "x"⟩]⟩,
        ⟨.createFrame, .ofInt 3, []⟩, ⟨.pushFrame, .ofInt 4, []⟩, ⟨.ret, .ofInt 5, []⟩,
        ⟨.popFrame, .ofInt 6, []⟩, ⟨.popFrame, .ofInt 7, []⟩], .empty⟩
      (fun i after => i.opcode = .popFrame ∧ after.frames.locals.length =
        [Frame.empty.put "x" (some (.int 5))].length)
      ⟨⟨.empty, [.empty, Frame.empty.put "x" (some (.int 5))], none⟩, [], [], 1, 1, [],
        .ofRoom none, .ofRoom none⟩ last j after :=
    ⟨_, _, _, rfl, .step ⟨_, rfl, rfl⟩ (by decide) (.step ⟨_, rfl, rfl⟩ (by decide)
      (.step ⟨_, rfl, rfl⟩ (by decide) (.step ⟨_, rfl, rfl⟩ (by decide)
      (.step ⟨_, rfl, rfl⟩ (by decide) (.close ⟨_, rfl, rfl⟩ ⟨rfl, rfl⟩)))))⟩
  rcases hsegment with ⟨last, after, j, hlast, hsegment⟩
  exact ⟨_, ⟨⟨.empty, [Frame.empty.put "x" (some (.int 5))], some .empty⟩, [], [], 0, 0, [],
      .ofRoom none, .ofRoom none⟩, _, last, after, _, j, rfl, rfl, hsegment, rfl, hlast,
    segments_restore_locals _ _ _ _ _ _ _ rfl rfl hsegment⟩

end Machine

end FrameCode
