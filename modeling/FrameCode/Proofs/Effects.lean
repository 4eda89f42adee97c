import FrameCode.Proofs.Handlers
import FrameCode.Proofs.TextLines

/-!
# What a step can do

The two halves of the execution of an instruction, each described once.

- `Instruction.Performs`: the effects that an instruction can have, by its opcode
- `Effect.Enabled`: when an effect can be applied
- `Effect.Refuses`: why an effect is refused
- `Effect.FailsWith`: how an effect fails, and what it leaves behind then

Everything that holds for a step can be derived from these.
-/

namespace FrameCode

/-! ## From instructions to effects -/

namespace Opcode

/-- The opcodes that assign a value to their first operand. -/
def storing : List Opcode :=
  [move, add, sub, mul, floorDiv, less, greater, equal, and, or, not, charOfInt, intOfChar, concat,
    length, getChar, setChar, typeOf]

end Opcode

namespace Instruction

/-- The effects that an instruction can have in a state. -/
inductive Performs (i : Instruction) (labels : LabelTable) (m : Machine) : Effect → Prop
  | skip (hop : i.opcode ∈ [.label, .jumpIfEqual, .jumpIfNotEqual]) : Performs i labels m .skip
  | assign (v : Variable) (value : Value) (hop : i.opcode ∈ Opcode.storing)
      (hv : i.operands[0]? = some (.var v)) : Performs i labels m (.assign v value)
  | declare (v : Variable) (hop : i.opcode = .declare) (hv : i.operands[0]? = some (.var v)) :
      Performs i labels m (.declare v)
  | createFrame (hop : i.opcode = .createFrame) : Performs i labels m .createFrame
  | pushFrame (hop : i.opcode = .pushFrame) : Performs i labels m .pushFrame
  | popFrame (hop : i.opcode = .popFrame) : Performs i labels m .popFrame
  | jump (position : Nat) (hop : i.opcode ∈ [.jump, .jumpIfEqual, .jumpIfNotEqual])
      (hposition : i.destination labels = .ok position) : Performs i labels m (.jump position)
  | call (position : Nat) (hop : i.opcode = .call)
      (hposition : i.destination labels = .ok position) : Performs i labels m (.call position)
  | ret (hop : i.opcode = .ret) : Performs i labels m .ret
  | push (value : Value) (hop : i.opcode = .push) (hvalue : i.HasValue m.frames 0 value) :
      Performs i labels m (.push value)
  | pop (v : Variable) (hop : i.opcode = .pop) (hv : i.operands[0]? = some (.var v)) :
      Performs i labels m (.pop v)
  | read (v : Variable) (tag : TypeTag) (hop : i.opcode = .read)
      (hv : i.operands[0]? = some (.var v)) (htag : i.operands[1]? = some (.literal (.type tag))) :
      Performs i labels m (.read v tag)
  | write (value : Value) (hop : i.opcode = .write) (hvalue : i.HasValue m.frames 0 value) :
      Performs i labels m (.write value.text)
  | reportValue (value : Value) (hop : i.opcode = .debugWrite)
      (hvalue : i.HasValue m.frames 0 value) : Performs i labels m (.report value.text)
  | reportState (hop : i.opcode = .debugDump) : Performs i labels m (.report (i.dump m))

variable {i : Instruction} {labels : LabelTable} {m : Machine} {e : Effect}

theorem Stores.performs {computation : Except Fault Effect} {result : Value → Prop} {op : Opcode}
    (hstores : i.Stores computation result) (hop : i.opcode = op) (hstoring : op ∈ Opcode.storing)
    (h : computation = .ok e) : i.Performs labels m e := by
  rcases (hstores e).1 h with ⟨value, -, v, hv, rfl⟩
  exact .assign v value (hop ▸ hstoring) hv

theorem conditionalJump_performs {wanted : Bool}
    (hop : i.opcode ∈ [.jumpIfEqual, .jumpIfNotEqual])
    (h : i.conditionalJump labels m.frames wanted = .ok e) : i.Performs labels m e := by
  rcases conditionalJump_eq_ok_iff.1 h with
    ⟨a, b, -, -, -, ⟨-, position, hposition, rfl⟩ | ⟨-, rfl⟩⟩
  · exact .jump position (List.mem_cons_of_mem _ hop) hposition
  · exact .skip (List.mem_cons_of_mem _ hop)

/-- An effect that an instruction has is one of those that its opcode allows. -/
theorem effect_performs (h : i.effect labels m = .ok e) : i.Performs labels m e := by
  unfold effect at h
  cases hop : i.opcode <;> rw [hop] at h
  -- Opcodes without operands have their effects at once.
  case createFrame => cases h; exact .createFrame hop
  case pushFrame => cases h; exact .pushFrame hop
  case popFrame => cases h; exact .popFrame hop
  case ret => cases h; exact .ret hop
  case label => cases h; exact .skip (by simp [hop])
  case debugDump => cases h; exact .reportState hop
  -- Others look up one operand and make their effect from it.
  case declare =>
    simp only [bind_eq_ok_iff, varAt_eq_ok_iff, pure_eq_ok_iff] at h
    rcases h with ⟨v, hv, rfl⟩
    exact .declare v hop hv
  case pop =>
    simp only [bind_eq_ok_iff, varAt_eq_ok_iff, pure_eq_ok_iff] at h
    rcases h with ⟨v, hv, rfl⟩
    exact .pop v hop hv
  case call =>
    simp only [bind_eq_ok_iff, pure_eq_ok_iff] at h
    rcases h with ⟨position, hposition, rfl⟩
    exact .call position hop hposition
  case jump =>
    simp only [bind_eq_ok_iff, pure_eq_ok_iff] at h
    rcases h with ⟨position, hposition, rfl⟩
    exact .jump position (by simp [hop]) hposition
  case push =>
    simp only [bind_eq_ok_iff, valueAt_eq_ok_iff, pure_eq_ok_iff] at h
    rcases h with ⟨value, hvalue, rfl⟩
    exact .push value hop hvalue
  case write =>
    simp only [bind_eq_ok_iff, valueAt_eq_ok_iff, pure_eq_ok_iff] at h
    rcases h with ⟨value, hvalue, rfl⟩
    exact .write value hop hvalue
  case debugWrite =>
    simp only [bind_eq_ok_iff, valueAt_eq_ok_iff, pure_eq_ok_iff] at h
    rcases h with ⟨value, hvalue, rfl⟩
    exact .reportValue value hop hvalue
  case read =>
    rcases read_eq_ok_iff.1 h with ⟨v, tag, hv, htag, rfl⟩
    exact .read v tag hop hv htag
  case jumpIfEqual | jumpIfNotEqual => exact conditionalJump_performs (by simp [hop]) h
  -- What is left are the storing opcodes.
  case move => exact move_stores.performs hop (by decide) h
  case add | sub | mul => exact arithmetic_stores.performs hop (by decide) h
  case floorDiv => exact division_stores.performs hop (by decide) h
  case less | greater => exact comparison_stores.performs hop (by decide) h
  case equal => exact equality_stores.performs hop (by decide) h
  case and | or => exact connective_stores.performs hop (by decide) h
  case not => exact negation_stores.performs hop (by decide) h
  case charOfInt => exact charOfInt_stores.performs hop (by decide) h
  case intOfChar => exact intOfChar_stores.performs hop (by decide) h
  case concat => exact concat_stores.performs hop (by decide) h
  case length => exact length_stores.performs hop (by decide) h
  case getChar => exact getChar_stores.performs hop (by decide) h
  case setChar => exact setChar_stores.performs hop (by decide) h
  case typeOf => exact typeOf_stores.performs hop (by decide) h

end Instruction

/-! ## Channels -/

namespace Channel

/-- A channel takes only the beginning of a text, as much as it has room for. -/
def Cuts (channel : Channel) (text : String) (after : Channel) : Prop :=
  ∃ kept lost : ByteArray, text.toUTF8 = kept ++ lost ∧ lost.size ≠ 0 ∧
    channel.room = some kept.size ∧ after = ⟨channel.written ++ kept, some 0⟩

theorem cuts_write {channel : Channel} {text : String} (h : channel.fits text = false) :
    channel.Cuts text (channel.write text) := by
  rcases channel with ⟨written, room⟩
  cases room with
  | none => simp [fits] at h
  | some n =>
    have hlt : n < text.toUTF8.size := by simpa [fits] using h
    -- The text is cut where the room ends, which is before its end.
    refine ⟨text.toUTF8.extract 0 n, text.toUTF8.extract n text.toUTF8.size, ?_, ?_, ?_, ?_⟩
    · rw [← ByteArray.extract_eq_extract_append_extract n (Nat.zero_le n) hlt.le,
        ByteArray.extract_zero_size]
    · rw [ByteArray.size_extract]
      omega
    · have hkept : min n text.toUTF8.size = n := Nat.min_eq_left hlt.le
      rw [ByteArray.size_extract, Nat.sub_zero, hkept]
    · have hroom : n - text.toUTF8.size = 0 := Nat.sub_eq_zero_of_le hlt.le
      simp only [write, accepted, Option.map_some, hroom]

end Channel

/-! ## From effects to outcomes -/

namespace Effect

/-- When an effect can be applied. -/
def Enabled (m : Machine) : Effect → Prop
  | skip | createFrame | jump _ | call _ | push _ => True
  | assign target _ => m.frames.Declares target
  | declare target => m.frames.Lacks target
  | pushFrame => m.frames.temporary ≠ none
  | popFrame => m.frames.locals ≠ []
  | ret => m.callStack ≠ []
  | pop target => m.frames.Declares target ∧ m.dataStack ≠ []
  | read target _ => m.frames.Declares target ∧ Line.IsText (Line.next m.input).1
  | write text => m.output.fits text = true
  | report text => m.diagnostics.fits text = true

/-- The variable that an effect declares or assigns. -/
def target? : Effect → Option Variable
  | assign target _ | declare target | pop target | read target _ => some target
  | _ => none

/-- Why an effect is refused: what it needs is not there, or what it adds is there already. -/
inductive Refuses (m : Machine) : Effect → Fault → Prop
  | undefinedFrame (e : Effect) (scope : Scope) : Refuses m e (.undefinedFrame scope)
  | undefinedVariable (e : Effect) (v : Variable) (hv : e.target? = some v)
      (hdeclares : ¬ m.frames.Declares v) : Refuses m e (.undefinedVariable v)
  | redefinition (v : Variable) : Refuses m (.declare v) (.redefinition v)
  | emptyCallStack : Refuses m .ret .emptyCallStack
  | emptyDataStack (v : Variable) : Refuses m (.pop v) .emptyDataStack

/-- How an effect fails: it is refused and changes nothing, or a channel stops it. -/
inductive FailsWith (m : Machine) : Effect → Fault → Machine → Prop
  | refused (e : Effect) (fault : Fault) (hrefuses : Refuses m e fault) : FailsWith m e fault m
  | notText (target : Variable) (tag : TypeTag) (hline : ¬ Line.IsText (Line.next m.input).1) :
      FailsWith m (.read target tag) (.channel .notText) { m with input := (Line.next m.input).2 }
  | outputFull (text : String) (after : Channel) (hcut : m.output.Cuts text after) :
      FailsWith m (.write text) (.channel .full) { m with output := after }
  | diagnosticsFull (text : String) (after : Channel) (hcut : m.diagnostics.Cuts text after) :
      FailsWith m (.report text) (.channel .full) { m with diagnostics := after }

variable {m : Machine} {e : Effect}

/-- An effect that is refused has no internal fault. -/
theorem Refuses.errorClass_ne {fault : Fault} (h : Refuses m e fault) :
    fault.errorClass ≠ .internal := by
  cases h <;> simp [Fault.errorClass]

/-- A variable that cannot be assigned is not declared, or not even its frame is there. -/
theorem refuses_of_unassignable {target : Variable} {fault : Fault}
    (htarget : e.target? = some target)
    (hfault : fault = .undefinedFrame target.scope ∨ fault = .undefinedVariable target)
    (hdeclares : ¬ m.frames.Declares target) : Refuses m e fault := by
  rcases hfault with rfl | rfl
  · exact .undefinedFrame e target.scope
  · exact .undefinedVariable e target htarget hdeclares

/-- What becomes of an effect: it takes place if it is enabled, and fails in one of the known ways
if it is not. -/
def Decided (m : Machine) (e : Effect) : Prop :=
  (e.Enabled m ∧ ∃ after, e.apply m = .done after) ∨
    (¬ e.Enabled m ∧ ∃ fault after, e.apply m = .failed fault after ∧ FailsWith m e fault after)

/-- An effect that changes the frames alone is decided by the operation on the frames. -/
theorem decided_of_withFrames {result : Except Fault Frames}
    (happly : e.apply m = m.withFrames result)
    (henabled : (∃ frames, result = .ok frames) ↔ e.Enabled m)
    (hrefuses : ∀ fault, result = .error fault → ¬ e.Enabled m → Refuses m e fault) :
    Decided m e := by
  cases result with
  | ok frames => exact .inl ⟨henabled.1 ⟨frames, rfl⟩, _, happly⟩
  | error fault =>
    -- An operation that fails is not enabled, and its fault leaves the machine as it was.
    have hoff : ¬ e.Enabled m := by
      intro hon
      rcases henabled.2 hon with ⟨frames, hframes⟩
      cases hframes
    exact .inr ⟨hoff, fault, m, happly, .refused e fault (hrefuses fault rfl hoff)⟩

/-- An effect that checks its target first is refused if the target cannot be assigned. -/
theorem decided_of_unassignable {target : Variable} {fault : Fault}
    (htarget : e.target? = some target) (hcheck : m.frames.checkAssignable target = .error fault)
    (happly : e.apply m = .failed fault m) (henabled : e.Enabled m → m.frames.Declares target) :
    Decided m e := by
  have hdeclares : ¬ m.frames.Declares target := by
    rw [← Frames.checkAssignable_eq_ok_iff, hcheck]
    simp
  have hfault := Frames.checkAssignable_eq_error hcheck
  exact .inr ⟨fun hon => hdeclares (henabled hon), fault, m, happly,
    .refused e fault (refuses_of_unassignable htarget hfault hdeclares)⟩

theorem decided_pop (target : Variable) : Decided m (.pop target) := by
  cases hcheck : m.frames.checkAssignable target with
  | error fault =>
    exact decided_of_unassignable rfl hcheck (by simp [apply, Machine.pop, hcheck]) And.left
  | ok _ =>
    have hdeclared := Frames.checkAssignable_eq_ok_iff.1 hcheck
    cases hstack : m.dataStack with
    | nil =>
      have happly : (pop target).apply m = .failed .emptyDataStack m := by
        simp [apply, Machine.pop, hcheck, hstack]
      exact .inr ⟨fun hon => hon.2 hstack, _, m, happly, .refused _ _ (.emptyDataStack target)⟩
    | cons value below =>
      -- The check has already made sure that the assignment does not fail.
      rcases (Frames.exists_assign_iff value).2 hdeclared with ⟨frames, hframes⟩
      refine .inl ⟨⟨hdeclared, by simp [hstack]⟩, { m with dataStack := below, frames := frames },
        ?_⟩
      simp [apply, Machine.pop, Machine.withFrames, hcheck, hstack, hframes]

theorem decided_read (target : Variable) (tag : TypeTag) : Decided m (.read target tag) := by
  cases hcheck : m.frames.checkAssignable target with
  | error fault =>
    exact decided_of_unassignable rfl hcheck (by simp [apply, Machine.readLine, hcheck]) And.left
  | ok _ =>
    have hdeclared := Frames.checkAssignable_eq_ok_iff.1 hcheck
    cases hdecode : Line.decode (Line.next m.input).1 with
    | error failure =>
      -- The target is fine, so the line has been taken from the input when it turns out not to
      -- be text.
      have hline : ¬ Line.IsText (Line.next m.input).1 := by
        rw [← Line.exists_decode_iff, hdecode]
        simp
      have hfailure : failure = .notText := Line.decode_eq_error hdecode
      subst hfailure
      refine .inr ⟨fun hon => hline hon.2, _, _, ?_, .notText target tag hline⟩
      simp [apply, Machine.readLine, hcheck, hdecode]
    | ok text =>
      have hline := Line.exists_decode_iff.1 ⟨text, hdecode⟩
      rcases (Frames.exists_assign_iff (Value.ofLine tag text)).2 hdeclared with ⟨frames, hframes⟩
      refine .inl ⟨⟨hdeclared, hline⟩,
        { m with input := (Line.next m.input).2, frames := frames }, ?_⟩
      simp [apply, Machine.readLine, Machine.withFrames, hcheck, hdecode, hframes]

theorem decided (m : Machine) (e : Effect) : Decided m e := by
  cases e with
  | skip | createFrame | jump position | call position | push value =>
    exact .inl ⟨trivial, _, rfl⟩
  | assign target value =>
    refine decided_of_withFrames rfl (Frames.exists_assign_iff value) fun fault hfault hoff => ?_
    exact refuses_of_unassignable rfl (Frames.assign_eq_error hfault) hoff
  | declare target =>
    refine decided_of_withFrames rfl Frames.exists_declare_iff fun fault hfault _ => ?_
    rcases Frames.declare_eq_error hfault with rfl | rfl
    · exact .undefinedFrame _ target.scope
    · exact .redefinition target
  | pushFrame =>
    refine decided_of_withFrames rfl ?_ fun fault hfault _ => ?_
    · unfold Frames.pushTemporary Enabled
      cases m.frames.temporary <;> simp
    · unfold Frames.pushTemporary at hfault
      split at hfault
      next => cases hfault; exact .undefinedFrame _ .temporary
      next => cases hfault
  | popFrame =>
    refine decided_of_withFrames rfl ?_ fun fault hfault _ => ?_
    · unfold Frames.popLocal Enabled
      cases m.frames.locals <;> simp [Except.map]
    · unfold Frames.popLocal at hfault
      split at hfault
      next => cases hfault; exact .undefinedFrame _ .current
      next => cases hfault
  | ret =>
    cases hstack : m.callStack with
    | nil =>
      have happly : ret.apply m = .failed .emptyCallStack m := by simp [apply, Machine.ret, hstack]
      exact .inr ⟨fun hon => hon hstack, _, m, happly, .refused _ _ .emptyCallStack⟩
    | cons position below =>
      refine .inl ⟨by simp [Enabled, hstack], { m with callStack := below, pc := position }, ?_⟩
      simp [apply, Machine.ret, hstack]
  | pop target => exact decided_pop target
  | read target tag => exact decided_read target tag
  | write text =>
    cases hfits : m.output.fits text with
    | true => exact .inl ⟨hfits, _, if_pos hfits⟩
    | false =>
      refine .inr ⟨by simp [Enabled, hfits], _, _, if_neg (by simp [hfits]), ?_⟩
      exact .outputFull text _ (Channel.cuts_write hfits)
  | report text =>
    cases hfits : m.diagnostics.fits text with
    | true => exact .inl ⟨hfits, _, if_pos hfits⟩
    | false =>
      refine .inr ⟨by simp [Enabled, hfits], _, _, if_neg (by simp [hfits]), ?_⟩
      exact .diagnosticsFull text _ (Channel.cuts_write hfits)

/-- An effect takes place exactly if it is enabled. -/
theorem exists_apply_done_iff : (∃ after, e.apply m = .done after) ↔ e.Enabled m := by
  rcases decided m e with ⟨hon, hdone⟩ | ⟨hoff, fault, after, hfailed, -⟩
  · exact ⟨fun _ => hon, fun _ => hdone⟩
  · refine ⟨?_, fun hon => absurd hon hoff⟩
    intro h
    rcases h with ⟨after', hdone⟩
    rw [hfailed] at hdone
    cases hdone

theorem failsWith_of_apply {fault : Fault} {after : Machine}
    (h : e.apply m = .failed fault after) : FailsWith m e fault after := by
  rcases decided m e with ⟨-, after', hdone⟩ | ⟨-, fault', after', hfailed, hfails⟩
  · rw [h] at hdone
    cases hdone
  · rw [h] at hfailed
    cases hfailed
    exact hfails

end Effect

end FrameCode
