import FrameCode.Proofs.Footprint

/-!
# The frames as a store of variables

Instructions that consume something check their target first and assign it last, so the check has to
foresee what the assignment will do.  What an assignment or a declaration has changed is told by the
reads after it: one variable is read differently, and no other one, whatever frame it is in.

- `Concur`: two computations succeed together, or fail for the same reason
- `Frames.read_eq`: what a read depends on
- `Frames.Updates`: one variable is read differently
- `Frames.HandsOver`: what was read in one frame is read in another one
- `Frames.reads_after_changes`: the laws of the store
-/

namespace FrameCode

/-! ## Computations that succeed together -/

/-- Both computations succeed, or both fail with the same fault. -/
inductive Concur {α β : Type} : Except Fault α → Except Fault β → Prop
  | ok (a : α) (b : β) : Concur (.ok a) (.ok b)
  | error (fault : Fault) : Concur (.error fault) (.error fault)

/-- Two computations that begin alike concur if what follows does. -/
theorem Concur.bind {α β γ : Type} (x : Except Fault γ) {f : γ → Except Fault α}
    {g : γ → Except Fault β} (h : ∀ c, Concur (f c) (g c)) : Concur (x >>= f) (x >>= g) := by
  cases x with
  | error fault => exact .error fault
  | ok c => exact h c

namespace Frames

variable {frames after : Frames} {v w : Variable}

theorem concur_checkAssignable (frames : Frames) (v : Variable) :
    Concur (frames.read v) (frames.checkAssignable v) := by
  unfold checkAssignable
  cases frames.read v with
  | error fault => exact .error fault
  | ok content => exact .ok content ()

/-- Reading and assigning need the same frame and the same slot in it. -/
theorem concur_assign (frames : Frames) (v : Variable) (value : Value) :
    Concur (frames.read v) (frames.assign v value) := by
  rw [assign, modifyFrame_eq]
  refine Concur.bind (frames.frameOf v) fun frame => ?_
  unfold Frame.contains
  cases frame.slot? v.name with
  | none => exact .error (.undefinedVariable v)
  | some content => exact .ok content _

/-! ## What a read depends on -/

/-- A read gives the content of a slot; where there is no slot, it tells whether there is a
frame. -/
theorem read_eq (frames : Frames) (v : Variable) :
    frames.read v =
      (frames.slotAt? v.scope.place v.name).elim
        (.error (if (frames.frameAt? v.scope.place).isSome then .undefinedVariable v
          else .undefinedFrame v.scope)) .ok := by
  unfold read frameOf slotAt?
  rw [frameAt?_place]
  cases frames.frame? v.scope with
  | none => rfl
  | some frame =>
    simp only [bind, Except.bind, Option.bind_some]
    cases frame.slot? v.name <;> rfl

theorem read_of_lacks (h : frames.Lacks v) : frames.read v = .error (.undefinedVariable v) := by
  rcases h with ⟨frame, hframe, hslot⟩
  rw [read_eq, slotAt?, frameAt?_place, hframe, Option.bind_some, hslot]
  rfl

theorem read_of_no_frame (h : frames.frame? v.scope = none) :
    frames.read v = .error (.undefinedFrame v.scope) := by
  rw [read_eq, slotAt?, frameAt?_place, h]
  rfl

/-- The fault of a variable that is not declared is not that of a missing frame. -/
theorem lacks_iff :
    frames.Lacks v ↔
      (frames.frame? v.scope).isSome ∧ frames.read v = .error (.undefinedVariable v) := by
  constructor
  · intro h
    refine ⟨?_, read_of_lacks h⟩
    rcases h with ⟨frame, hframe, -⟩
    rw [hframe, Option.isSome_some]
  · intro h
    rcases h with ⟨hexists, hread⟩
    rcases Option.isSome_iff_exists.1 hexists with ⟨frame, hframe⟩
    cases hslot : frame.slot? v.name with
    | none => exact ⟨frame, hframe, hslot⟩
    | some content =>
      have hholds : frames.Holds v content := ⟨frame, hframe, hslot⟩
      cases (read_eq_ok_iff.2 hholds).symm.trans hread

/-! ## Changes of one variable -/

/-- One variable is read with a given content, and all others as before. -/
structure Updates (frames after : Frames) (v : Variable) (content : Option Value) : Prop where
  reads : after.read v = .ok content
  others : ∀ w, w ≠ v → after.read w = frames.read w

/-- The slot and the frame that a read of another variable depends on are kept. -/
theorem KeepsBut.read_eq (h : frames.KeepsBut after v) (hw : w ≠ v) :
    after.read w = frames.read w := by
  rw [Frames.read_eq, Frames.read_eq, h.slots _ _ (Variable.slot_ne hw), h.existing]

theorem updates_of_assign {value : Value} (h : frames.assign v value = .ok after) :
    frames.Updates after v (some value) := by
  have hoverwrites := overwrites_of_assign h
  exact ⟨read_eq_ok_iff.2 hoverwrites.holds, fun w hw => hoverwrites.keeps.read_eq hw⟩

theorem updates_of_declare (h : frames.declare v = .ok after) : frames.Updates after v none := by
  have hgains := gains_of_declare h
  exact ⟨read_eq_ok_iff.2 hgains.unassigned, fun w hw => hgains.keeps.read_eq hw⟩

/-! ## The temporary frame on the stack -/

/-- A variable is read after a change as another one was before.  If that one was not declared, this
one is not either, and the fault names the variable that is asked for. -/
inductive HandsOver (frames after : Frames) (v w : Variable) : Prop
  | content (content : Option Value) (hbefore : frames.read v = .ok content)
      (hafter : after.read w = .ok content)
  | undeclared (hbefore : frames.read v = .error (.undefinedVariable v))
      (hafter : after.read w = .error (.undefinedVariable w))

theorem handsOver_of_pushTemporary (h : frames.pushTemporary = .ok after) (name : String) :
    frames.HandsOver after ⟨.temporary, name⟩ ⟨.current, name⟩ := by
  rcases pushTemporary_eq_ok_iff.1 h with ⟨frame, hframe, rfl⟩
  cases hslot : frame.slot? name with
  | none =>
    refine .undeclared (read_of_lacks ?_) (read_of_lacks ?_)
    · exact ⟨frame, hframe, hslot⟩
    · exact ⟨frame, rfl, hslot⟩
  | some content =>
    refine .content content (read_eq_ok_iff.2 ?_) (read_eq_ok_iff.2 ?_)
    · exact ⟨frame, hframe, hslot⟩
    · exact ⟨frame, rfl, hslot⟩

theorem read_temporary_of_pushTemporary (h : frames.pushTemporary = .ok after) (name : String) :
    after.read ⟨.temporary, name⟩ = .error (.undefinedFrame .temporary) := by
  rcases pushTemporary_eq_ok_iff.1 h with ⟨frame, -, rfl⟩
  exact read_of_no_frame rfl

/-- A check, a read and an assignment of a variable come to the same; a declaration succeeds where
the frame exists and the read finds nothing declared; a change of a variable is seen by its reads
and by no others; a temporary frame that is pushed is read as the local frame. -/
theorem reads_after_changes (frames : Frames) (v : Variable) (value : Value) :
    Concur (frames.read v) (frames.checkAssignable v) ∧
    Concur (frames.read v) (frames.assign v value) ∧
    ((∃ after, frames.declare v = .ok after) ↔
      (frames.frame? v.scope).isSome ∧ frames.read v = .error (.undefinedVariable v)) ∧
    (∀ after, frames.assign v value = .ok after → frames.Updates after v (some value)) ∧
    (∀ after, frames.declare v = .ok after → frames.Updates after v none) ∧
    (∀ after, frames.pushTemporary = .ok after → ∀ name,
      frames.HandsOver after ⟨.temporary, name⟩ ⟨.current, name⟩ ∧
        after.read ⟨.temporary, name⟩ = .error (.undefinedFrame .temporary)) := by
  refine ⟨concur_checkAssignable frames v, concur_assign frames v value, ?_, ?_, ?_, ?_⟩
  · exact exists_declare_iff.trans lacks_iff
  · intro after h
    exact updates_of_assign h
  · intro after h
    exact updates_of_declare h
  · intro after h name
    exact ⟨handsOver_of_pushTemporary h name, read_temporary_of_pushTemporary h name⟩

/-- One name in three frames: it is assigned in the temporary one, declared in the local one, and
found there once the temporary one has been pushed. -/
theorem reads_after_changes_sameName :
    ∃ frames assigned declared pushed : Frames,
      frames.read ⟨.global, "x"⟩ = .ok (some (.int 1)) ∧
      frames.assign ⟨.temporary, "x"⟩ (.bool true) = .ok assigned ∧
      frames.declare ⟨.current, "x"⟩ = .ok declared ∧
      frames.pushTemporary = .ok pushed ∧
      frames.Updates assigned ⟨.temporary, "x"⟩ (some (.bool true)) ∧
      frames.Updates declared ⟨.current, "x"⟩ none ∧
      frames.HandsOver pushed ⟨.temporary, "x"⟩ ⟨.current, "x"⟩ ∧
      frames.HandsOver pushed ⟨.temporary, "y"⟩ ⟨.current, "y"⟩ := by
  let frames : Frames :=
    ⟨Frame.empty.put "x" (some (.int 1)), [.empty], some (Frame.empty.put "x" none)⟩
  rcases reads_after_changes frames ⟨.temporary, "x"⟩ (.bool true) with
    ⟨-, -, -, hassign, -, hpush⟩
  rcases reads_after_changes frames ⟨.current, "x"⟩ (.bool true) with ⟨-, -, -, -, hdeclare, -⟩
  exact ⟨frames, _, _, _, rfl, rfl, rfl, rfl, hassign _ rfl, hdeclare _ rfl, (hpush _ rfl "x").1,
    (hpush _ rfl "y").1⟩

/-- A name that was not declared in the temporary frame is not read as before once the frame has
been pushed: the fault names another variable. -/
theorem pushTemporary_read_ne :
    ∃ pushed : Frames, initial.createTemporary.pushTemporary = .ok pushed ∧
      initial.createTemporary.read ⟨.temporary, "n"⟩ =
        .error (.undefinedVariable ⟨.temporary, "n"⟩) ∧
      pushed.read ⟨.current, "n"⟩ = .error (.undefinedVariable ⟨.current, "n"⟩) ∧
      pushed.read ⟨.current, "n"⟩ ≠ initial.createTemporary.read ⟨.temporary, "n"⟩ :=
  ⟨_, rfl, rfl, rfl, by decide⟩

end Frames

end FrameCode
