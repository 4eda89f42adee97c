import FrameCode.Machine.Operands
import Mathlib.Data.List.Forall2

/-!
# What operands stand for

The checked look-ups of frames and operands are described by relations that do not mention faults.

- `Frames.modifyFrame_eq`: a frame is found in the same place to be changed as to be read
- `Frames.Holds`, `Frames.Declares`, `Frames.Lacks`: what the frames know about a variable
- `Operand.Contains`, `Instruction.HasValue`: what an operand stands for
- `Instruction.Fits`: the operands of an instruction are those that its opcode takes

For each look-up there is one lemma that says when it succeeds, and with what.
-/

namespace FrameCode

/-! ## Checked computations and matching lists -/

section Checked

variable {ε α β : Type}

theorem bind_eq_ok_iff {x : Except ε α} {f : α → Except ε β} {b : β} :
    (x >>= f) = .ok b ↔ ∃ a, x = .ok a ∧ f a = .ok b := by
  cases x <;> simp [Bind.bind, Except.bind]

theorem bind_eq_error_iff {x : Except ε α} {f : α → Except ε β} {e : ε} :
    (x >>= f) = .error e ↔ x = .error e ∨ ∃ a, x = .ok a ∧ f a = .error e := by
  cases x <;> simp [Bind.bind, Except.bind]

theorem pure_eq_ok_iff {a b : α} : (pure a : Except ε α) = .ok b ↔ a = b := by
  simp [Pure.pure, Except.pure]

theorem map_eq_ok_iff {x : Except ε α} {f : α → β} {b : β} :
    (f <$> x) = .ok b ↔ ∃ a, x = .ok a ∧ f a = b := by
  cases x <;> simp [Functor.map, Except.map]

theorem map_eq_error_iff {x : Except ε α} {f : α → β} {e : ε} :
    f <$> x = .error e ↔ x = .error e := by
  cases x <;> simp [Functor.map, Except.map]

/-- A computation that goes on with one form of a result only needs a result of that form. -/
theorem bind_form_eq_ok_iff {x : Except ε α} {f : α → Except ε β} {b : β} (form : β → α)
    (hf : ∀ a, f a = .ok b ↔ a = form b) : (x >>= f) = .ok b ↔ x = .ok (form b) := by
  rw [bind_eq_ok_iff]
  simp only [hf, exists_eq_right]

theorem mapM_eq_ok_iff {f : α → Except ε β} {as : List α} {bs : List β} :
    as.mapM f = .ok bs ↔ List.Forall₂ (fun a b => f a = .ok b) as bs := by
  induction as generalizing bs with
  | nil => rw [List.mapM_nil, pure_eq_ok_iff, List.forall₂_nil_left_iff, eq_comm]
  | cons a as ih =>
    simp only [List.mapM_cons, bind_eq_ok_iff, pure_eq_ok_iff, ih, List.forall₂_cons_left_iff]
    constructor
    · intro h
      rcases h with ⟨b, hb, later, hlater, rfl⟩
      exact ⟨b, later, hb, hlater, rfl⟩
    · intro h
      rcases h with ⟨b, later, hb, hlater, rfl⟩
      exact ⟨b, hb, later, hlater, rfl⟩

theorem mapM_eq_error {f : α → Except ε β} {as : List α} {e : ε}
    (h : as.mapM f = .error e) : ∃ a ∈ as, f a = .error e := by
  induction as with
  | nil => cases h
  | cons a as ih =>
    rw [List.mapM_cons] at h
    rcases bind_eq_error_iff.1 h with hfirst | ⟨b, -, hlater⟩
    · exact ⟨a, by simp, hfirst⟩
    · rcases bind_eq_error_iff.1 hlater with hlater | ⟨bs, -, hnever⟩
      · rcases ih hlater with ⟨a', ha', hfailed⟩
        exact ⟨a', List.mem_cons_of_mem a ha', hfailed⟩
      · cases hnever

/-- Lists that match have members that match at the same positions. -/
theorem exists_getElem?_of_forall₂ {R : α → β → Prop} {as : List α} {bs : List β}
    (h : List.Forall₂ R as bs) {k : Nat} {a : α} (ha : as[k]? = some a) :
    ∃ b, bs[k]? = some b ∧ R a b := by
  induction h generalizing k with
  | nil => simp at ha
  | cons hhead _ ih =>
    cases k with
    | zero =>
      cases ha
      exact ⟨_, rfl, hhead⟩
    | succ k => simpa using ih (by simpa using ha)

end Checked

/-! ## Variables -/

namespace Frames

/-- The frame of a variable exists, and the variable is declared there with a given content. -/
def Holds (frames : Frames) (v : Variable) (content : Option Value) : Prop :=
  ∃ frame, frames.frame? v.scope = some frame ∧ frame.slot? v.name = some content

/-- The frame of a variable exists and declares it. -/
def Declares (frames : Frames) (v : Variable) : Prop :=
  ∃ content, frames.Holds v content

/-- The frame of a variable exists and does not declare it. -/
def Lacks (frames : Frames) (v : Variable) : Prop :=
  ∃ frame, frames.frame? v.scope = some frame ∧ frame.slot? v.name = none

theorem Holds.unique {frames : Frames} {v : Variable} {a b : Option Value}
    (ha : frames.Holds v a) (hb : frames.Holds v b) : a = b := by
  rcases ha with ⟨frame, hframe, hslot⟩
  rcases hb with ⟨frame', hframe', hslot'⟩
  have hsame : frame = frame' := Option.some.inj (hframe.symm.trans hframe')
  subst hsame
  exact Option.some.inj (hslot.symm.trans hslot')

/-! ## The frame of a scope -/

/-- Replaces the frame of a scope that exists. -/
def setFrame (frames : Frames) (scope : Scope) (frame : Frame) : Frames :=
  match scope with
  | .global => { frames with global := frame }
  | .current => { frames with locals := frame :: frames.locals.tail }
  | .temporary => { frames with temporary := some frame }

theorem frame?_setFrame_self (frames : Frames) (scope : Scope) (frame : Frame) :
    (frames.setFrame scope frame).frame? scope = some frame := by
  cases scope <;> rfl

/-- The frame that is changed is the one that is read, and no other frame changes. -/
theorem modifyFrame_eq (frames : Frames) (v : Variable) (change : Frame → Except Fault Frame) :
    frames.modifyFrame v.scope change =
      frames.frameOf v >>= fun frame => frames.setFrame v.scope <$> change frame := by
  rcases v with ⟨scope, name⟩
  rcases frames with ⟨global, locals, temporary⟩
  cases scope with
  | global => rfl
  | current =>
    cases locals with
    | nil => rfl
    | cons top below => rfl
  | temporary =>
    cases temporary with
    | none => rfl
    | some frame => rfl

theorem frameOf_eq_ok_iff {frames : Frames} {v : Variable} {frame : Frame} :
    frames.frameOf v = .ok frame ↔ frames.frame? v.scope = some frame := by
  unfold frameOf
  cases frames.frame? v.scope <;> simp

theorem read_eq_ok_iff {frames : Frames} {v : Variable} {content : Option Value} :
    frames.read v = .ok content ↔ frames.Holds v content := by
  simp only [read, Holds, bind_eq_ok_iff, frameOf_eq_ok_iff]
  refine exists_congr fun frame => and_congr_right fun _ => ?_
  cases frame.slot? v.name <;> simp

theorem checkAssignable_eq_ok_iff {frames : Frames} {v : Variable} :
    frames.checkAssignable v = .ok () ↔ frames.Declares v := by
  simp only [checkAssignable, Declares, bind_eq_ok_iff, read_eq_ok_iff, pure_eq_ok_iff, and_true]

theorem modifyFrame_eq_ok_iff {frames after : Frames} {v : Variable}
    {change : Frame → Except Fault Frame} :
    frames.modifyFrame v.scope change = .ok after ↔
      ∃ frame changed, frames.frame? v.scope = some frame ∧ change frame = .ok changed ∧
        after = frames.setFrame v.scope changed := by
  simp only [modifyFrame_eq, bind_eq_ok_iff, map_eq_ok_iff, frameOf_eq_ok_iff]
  constructor
  · intro h
    rcases h with ⟨frame, hframe, changed, hchange, rfl⟩
    exact ⟨frame, changed, hframe, hchange, rfl⟩
  · intro h
    rcases h with ⟨frame, changed, hframe, hchange, rfl⟩
    exact ⟨frame, hframe, changed, hchange, rfl⟩

/-- An assignment needs a declared variable, and puts the value into its slot. -/
theorem assign_eq_ok_iff {frames after : Frames} {v : Variable} {value : Value} :
    frames.assign v value = .ok after ↔
      ∃ frame, frames.frame? v.scope = some frame ∧ frame.contains v.name = true ∧
        after = frames.setFrame v.scope (frame.put v.name (some value)) := by
  refine modifyFrame_eq_ok_iff.trans (exists_congr fun frame => ?_)
  split
  next hdeclared => simp [hdeclared]
  next hdeclared => simp [hdeclared]

/-- A variable holds the value that it was assigned. -/
theorem holds_of_assign {frames after : Frames} {v : Variable} {value : Value}
    (h : frames.assign v value = .ok after) : after.Holds v (some value) := by
  rcases assign_eq_ok_iff.1 h with ⟨frame, -, -, rfl⟩
  exact ⟨_, frame?_setFrame_self frames v.scope _, Frame.slot?_put_self frame v.name _⟩

/-- A declaration needs a frame without the variable, and adds an empty slot. -/
theorem declare_eq_ok_iff {frames after : Frames} {v : Variable} :
    frames.declare v = .ok after ↔
      ∃ frame, frames.frame? v.scope = some frame ∧ frame.contains v.name = false ∧
        after = frames.setFrame v.scope (frame.put v.name none) := by
  refine modifyFrame_eq_ok_iff.trans (exists_congr fun frame => ?_)
  split
  next hdeclared => simp [hdeclared]
  next hdeclared => simp [hdeclared]

theorem declares_iff {frames : Frames} {v : Variable} :
    frames.Declares v ↔
      ∃ frame, frames.frame? v.scope = some frame ∧ frame.contains v.name = true := by
  constructor
  · intro h
    rcases h with ⟨content, frame, hframe, hslot⟩
    exact ⟨frame, hframe, by simp [Frame.contains, hslot]⟩
  · intro h
    rcases h with ⟨frame, hframe, hcontains⟩
    rcases Option.isSome_iff_exists.1 hcontains with ⟨content, hslot⟩
    exact ⟨content, frame, hframe, hslot⟩

theorem exists_assign_iff {frames : Frames} {v : Variable} (value : Value) :
    (∃ after, frames.assign v value = .ok after) ↔ frames.Declares v := by
  simp only [assign_eq_ok_iff, declares_iff]
  constructor
  · intro h
    rcases h with ⟨_, frame, hframe, hcontains, _⟩
    exact ⟨frame, hframe, hcontains⟩
  · intro h
    rcases h with ⟨frame, hframe, hcontains⟩
    exact ⟨_, frame, hframe, hcontains, rfl⟩

theorem exists_declare_iff {frames : Frames} {v : Variable} :
    (∃ after, frames.declare v = .ok after) ↔ frames.Lacks v := by
  simp only [declare_eq_ok_iff, Lacks]
  constructor
  · intro h
    rcases h with ⟨_, frame, hframe, hcontains, _⟩
    exact ⟨frame, hframe, by simpa [Frame.contains] using hcontains⟩
  · intro h
    rcases h with ⟨frame, hframe, hslot⟩
    exact ⟨_, frame, hframe, by simp [Frame.contains, hslot], rfl⟩

/-! ## Faults of variables -/

theorem frameOf_eq_error {frames : Frames} {v : Variable} {fault : Fault}
    (h : frames.frameOf v = .error fault) : fault = .undefinedFrame v.scope := by
  unfold frameOf at h
  cases hframe : frames.frame? v.scope with
  | none => simpa [hframe, eq_comm] using h
  | some frame => simp [hframe] at h

theorem read_eq_error {frames : Frames} {v : Variable} {fault : Fault}
    (h : frames.read v = .error fault) :
    fault = .undefinedFrame v.scope ∨ fault = .undefinedVariable v := by
  rcases bind_eq_error_iff.1 h with hframe | ⟨frame, -, hslot⟩
  · exact .inl (frameOf_eq_error hframe)
  · split at hslot
    next => exact .inr (Except.error.inj hslot).symm
    next => cases hslot

theorem checkAssignable_eq_error {frames : Frames} {v : Variable} {fault : Fault}
    (h : frames.checkAssignable v = .error fault) :
    fault = .undefinedFrame v.scope ∨ fault = .undefinedVariable v := by
  rcases bind_eq_error_iff.1 h with hread | ⟨content, -, hpure⟩
  · exact read_eq_error hread
  · cases hpure

theorem modifyFrame_eq_error {frames : Frames} {v : Variable}
    {change : Frame → Except Fault Frame} {fault : Fault}
    (h : frames.modifyFrame v.scope change = .error fault) :
    fault = .undefinedFrame v.scope ∨ ∃ frame, change frame = .error fault := by
  rw [modifyFrame_eq] at h
  rcases bind_eq_error_iff.1 h with hframe | ⟨frame, -, hchange⟩
  · exact .inl (frameOf_eq_error hframe)
  · exact .inr ⟨frame, map_eq_error_iff.1 hchange⟩

theorem assign_eq_error {frames : Frames} {v : Variable} {value : Value} {fault : Fault}
    (h : frames.assign v value = .error fault) :
    fault = .undefinedFrame v.scope ∨ fault = .undefinedVariable v := by
  rcases modifyFrame_eq_error h with hframe | ⟨frame, hslot⟩
  · exact .inl hframe
  · split at hslot
    next => cases hslot
    next => exact .inr (Except.error.inj hslot).symm

theorem declare_eq_error {frames : Frames} {v : Variable} {fault : Fault}
    (h : frames.declare v = .error fault) :
    fault = .undefinedFrame v.scope ∨ fault = .redefinition v := by
  rcases modifyFrame_eq_error h with hframe | ⟨frame, hslot⟩
  · exact .inl hframe
  · split at hslot
    next => exact .inr (Except.error.inj hslot).symm
    next => cases hslot

end Frames

/-! ## Operands -/

namespace Operand

/-- What an operand stands for: a declared variable for its content, a literal for itself. -/
def Contains (frames : Frames) : Operand → Option Value → Prop
  | var v, content => frames.Holds v content
  | literal value, content => content = some value
  | label _, _ => False

theorem Contains.unique {frames : Frames} {o : Operand} {a b : Option Value}
    (ha : o.Contains frames a) (hb : o.Contains frames b) : a = b := by
  cases o with
  | var v => exact Frames.Holds.unique ha hb
  | literal value => exact ha.trans hb.symm
  | label name => exact ha.elim

/-- The type that an argument must have in a document to become this operand. -/
def argumentType : Operand → ArgumentType
  | var _ => .var
  | literal (.int _) => .int
  | literal (.bool _) => .bool
  | literal (.string _) => .string
  | literal (.type _) => .type
  | label _ => .label

end Operand

namespace Instruction

/-- An operand stands for a value. -/
def HasValue (i : Instruction) (frames : Frames) (k : Nat) (value : Value) : Prop :=
  ∃ o, i.operands[k]? = some o ∧ o.Contains frames (some value)

theorem HasValue.unique {i : Instruction} {frames : Frames} {k : Nat} {a b : Value}
    (ha : i.HasValue frames k a) (hb : i.HasValue frames k b) : a = b := by
  rcases ha with ⟨o, ho, ha⟩
  rcases hb with ⟨o', ho', hb⟩
  have hsame : o = o' := Option.some.inj (ho.symm.trans ho')
  subst hsame
  exact Option.some.inj (ha.unique hb)

/-- The operands are as many as the opcode has positions, and each is of a type that its position
accepts. -/
def Fits (i : Instruction) : Prop :=
  List.Forall₂ (fun kind o => kind.accepts o.argumentType = true) i.opcode.signature i.operands

instance (i : Instruction) : Decidable i.Fits :=
  inferInstanceAs (Decidable (List.Forall₂ _ _ _))

/-! ## Look-ups by position -/

variable {i : Instruction} {frames : Frames} {k : Nat}

theorem operandAt_eq_ok_iff {o : Operand} :
    i.operandAt k = .ok o ↔ i.operands[k]? = some o := by
  unfold operandAt
  cases i.operands[k]? <;> simp

theorem varAt_eq_ok_iff {v : Variable} :
    i.varAt k = .ok v ↔ i.operands[k]? = some (.var v) := by
  refine (bind_form_eq_ok_iff Operand.var fun o => ?_).trans operandAt_eq_ok_iff
  cases o <;> simp

theorem labelAt_eq_ok_iff {name : String} :
    i.labelAt k = .ok name ↔ i.operands[k]? = some (.label name) := by
  refine (bind_form_eq_ok_iff Operand.label fun o => ?_).trans operandAt_eq_ok_iff
  cases o <;> simp

theorem typeAt_eq_ok_iff {tag : TypeTag} :
    i.typeAt k = .ok tag ↔ i.operands[k]? = some (.literal (.type tag)) := by
  refine (bind_form_eq_ok_iff (fun tag => .literal (.type tag)) fun o => ?_).trans
    operandAt_eq_ok_iff
  rcases o with v | (n | b | s | tag) | name <;> simp

theorem contentAt_eq_ok_iff {content : Option Value} :
    i.contentAt frames k = .ok content ↔
      ∃ o, i.operands[k]? = some o ∧ o.Contains frames content := by
  simp only [contentAt, bind_eq_ok_iff, operandAt_eq_ok_iff]
  refine exists_congr fun o => and_congr_right fun _ => ?_
  cases o with
  | var v => exact Frames.read_eq_ok_iff
  | literal value => simp [Operand.Contains, eq_comm]
  | label name => simp [Operand.Contains]

theorem valueAt_eq_ok_iff {value : Value} :
    i.valueAt frames k = .ok value ↔ i.HasValue frames k value := by
  simp only [valueAt, HasValue, bind_eq_ok_iff, operandAt_eq_ok_iff]
  refine exists_congr fun o => and_congr_right fun _ => ?_
  cases o with
  | var v =>
    refine (bind_form_eq_ok_iff some fun content => ?_).trans Frames.read_eq_ok_iff
    cases content <;> simp
  | literal other => simp [Operand.Contains, eq_comm]
  | label name => simp [Operand.Contains]

theorem wordAt_eq_ok_iff {n : Word} :
    i.wordAt frames k = .ok n ↔ i.HasValue frames k (.int n) := by
  refine (bind_form_eq_ok_iff Value.int fun value => ?_).trans valueAt_eq_ok_iff
  cases value <;> simp

theorem boolAt_eq_ok_iff {b : Bool} :
    i.boolAt frames k = .ok b ↔ i.HasValue frames k (.bool b) := by
  refine (bind_form_eq_ok_iff Value.bool fun value => ?_).trans valueAt_eq_ok_iff
  cases value <;> simp

theorem stringAt_eq_ok_iff {s : String} :
    i.stringAt frames k = .ok s ↔ i.HasValue frames k (.string s) := by
  refine (bind_form_eq_ok_iff Value.string fun value => ?_).trans valueAt_eq_ok_iff
  cases value <;> simp

theorem pairAt_eq_ok_iff {a b : Value} :
    i.pairAt frames k = .ok (a, b) ↔
      i.HasValue frames k a ∧ i.HasValue frames (k + 1) b ∧ a.tag = b.tag := by
  simp only [pairAt, bind_eq_ok_iff, valueAt_eq_ok_iff]
  constructor
  · intro h
    rcases h with ⟨a', ha, b', hb, hpair⟩
    split at hpair
    next htag =>
      cases hpair
      exact ⟨ha, hb, htag⟩
    next => cases hpair
  · intro h
    rcases h with ⟨ha, hb, htag⟩
    exact ⟨a, ha, b, hb, by simp [htag]⟩

end Instruction

end FrameCode
