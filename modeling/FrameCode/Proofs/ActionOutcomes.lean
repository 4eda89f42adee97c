import FrameCode.Proofs.EffectForm

/-!
# Actions and their effects

The action of an instruction changes the machine step by step; its effect says at once what comes of
that.  The two agree in every state, although a step can fail after others have changed the machine:
the temporary frame is taken away first, but the push fails only if there was none; a value or a
line is taken before it is assigned, but its variable has been checked by then.

- `Action.check_bind`, `Action.look_bind`: steps that leave the machine alone
- `Action.outcome_pushFrame`, `Action.outcome_popInto`, `Action.outcome_readInto`,
  `Action.outcome_report_bind`: steps after others that have changed it
- `Instruction.execute_eq`: executing an instruction is applying its effect
- `Instruction.execute_eq_done_iff`, `Instruction.execute_eq_failed_iff`: how an instruction ends
-/

namespace FrameCode

/-! ## Channels -/

namespace Channel

variable {channel : Channel} {a b : String}

/-- Texts that are written one after the other fit exactly if they fit together. -/
theorem fits_append (channel : Channel) (a b : String) :
    channel.fits (a ++ b) = (channel.fits a && (channel.write a).fits b) := by
  rcases channel with ⟨written, room⟩
  cases room with
  | none => rfl
  | some n =>
    have hsum : a.utf8ByteSize + b.utf8ByteSize ≤ n ↔
        a.utf8ByteSize ≤ n ∧ b.utf8ByteSize ≤ n - a.utf8ByteSize := by omega
    simp [fits, write, ← Bool.decide_and, hsum]

theorem write_append (channel : Channel) (a b : String) :
    channel.write (a ++ b) = (channel.write a).write b := by
  rcases channel with ⟨written, room⟩
  cases room with
  | none =>
    simp only [write, accepted, Option.map_none, String.toUTF8_eq_toByteArray,
      String.toByteArray_append, ByteArray.append_assoc]
  | some n =>
    simp only [write, accepted, Option.map_some, String.toUTF8_eq_toByteArray,
      String.toByteArray_append, ByteArray.size_append, ByteArray.extract_append,
      ByteArray.append_assoc, Nat.zero_sub, Nat.sub_sub]

/-- Nothing of a text is kept after a first part that does not fit. -/
theorem write_append_of_not_fits (h : channel.fits a = false) :
    channel.write (a ++ b) = channel.write a := by
  rcases channel with ⟨written, room⟩
  cases room with
  | none => cases h
  | some n =>
    have hlt : n < a.toByteArray.size := by simpa [fits] using h
    have hnone : n - a.toByteArray.size = 0 := Nat.sub_eq_zero_of_le (Nat.le_of_lt hlt)
    simp only [write, accepted, Option.map_some, String.toUTF8_eq_toByteArray,
      String.toByteArray_append, ByteArray.size_append, ByteArray.extract_append, Nat.zero_sub,
      ← Nat.sub_sub, hnone, ByteArray.extract_same, ByteArray.append_empty]

end Channel

namespace Action

section Parts

variable {α : Type} {m : Machine} {f : α → Action Unit} {g : α → Except Fault Effect}

theorem check_bind (x : Except Fault α) (h : ∀ a, (f a).outcome m = m.perform (g a)) :
    (check x >>= f).outcome m = m.perform (x >>= g) := by
  cases x with
  | ok a => exact h a
  | error fault => rfl

/-- A look leaves the machine alone, so that what follows it starts from the same machine. -/
theorem look_bind {x : Machine → Except Fault α} (h : ∀ a, (f a).outcome m = m.perform (g a)) :
    (look x >>= f).outcome m = m.perform (x m >>= g) :=
  check_bind (x m) h

/-- A look is a check of what is seen. -/
theorem outcome_look {x : Machine → Except Fault α} :
    (look x >>= f).outcome m = (check (x m) >>= f).outcome m :=
  rfl

theorem outcome_look_ok {x : Machine → Except Fault α} {a : α} (h : x m = .ok a) :
    (look x >>= f).outcome m = (f a).outcome m := by
  rw [outcome_look, h]
  rfl

theorem outcome_look_error {x : Machine → Except Fault α} {fault : Fault} (h : x m = .error fault) :
    (look x >>= f).outcome m = .failed fault m := by
  rw [outcome_look, h]
  rfl

theorem outcome_onFrames (change : Frames → Except Fault Frames) :
    (onFrames change).outcome m = m.withFrames (change m.frames) := by
  cases hchange : change m.frames with
  | ok frames => exact outcome_look_ok hchange
  | error fault => exact outcome_look_error hchange

theorem outcome_assign (target : Variable) (value : Value) :
    (assign target value).outcome m = m.withFrames (m.frames.assign target value) :=
  outcome_onFrames _

/-- Where there is no temporary frame, taking it away changes nothing. -/
theorem outcome_pushFrame : pushFrame.outcome m = Effect.pushFrame.apply m := by
  rcases m with ⟨⟨global, locals, temporary⟩, callStack, dataStack, pc, executed, input, output,
    diagnostics⟩
  cases temporary with
  | none => rfl
  | some frame => rfl

theorem outcome_popFrame : popFrame.outcome m = Effect.popFrame.apply m := by
  rcases m with ⟨⟨global, locals, temporary⟩, callStack, dataStack, pc, executed, input, output,
    diagnostics⟩
  cases locals with
  | nil => rfl
  | cons top below => rfl

theorem outcome_ret : ret.outcome m = Effect.ret.apply m := by
  rcases m with ⟨frames, callStack, dataStack, pc, executed, input, output, diagnostics⟩
  cases callStack with
  | nil => rfl
  | cons position below => rfl

theorem popValue_bind_nil {f : Value → Action Unit} (h : m.dataStack = []) :
    (popValue >>= f).outcome m = .failed .emptyDataStack m := by
  rcases m with ⟨frames, callStack, dataStack, pc, executed, input, output, diagnostics⟩
  subst h
  rfl

theorem popValue_bind_cons {f : Value → Action Unit} {value : Value} {below : List Value}
    (h : m.dataStack = value :: below) :
    (popValue >>= f).outcome m = (f value).outcome { m with dataStack := below } := by
  rcases m with ⟨frames, callStack, dataStack, pc, executed, input, output, diagnostics⟩
  subst h
  rfl

/-- The value is off the stack before it is assigned, which the check before has made possible. -/
theorem outcome_popInto (target : Variable) :
    (look (·.frames.checkAssignable target) >>= fun _ =>
      popValue >>= fun value => assign target value).outcome m =
    m.pop target := by
  unfold Machine.pop
  cases hcheck : m.frames.checkAssignable target with
  | error fault => exact outcome_look_error hcheck
  | ok checked =>
    refine (outcome_look_ok hcheck).trans ?_
    cases hstack : m.dataStack with
    | nil => exact popValue_bind_nil hstack
    | cons value below => exact (popValue_bind_cons hstack).trans (outcome_assign target value)

/-- A line is off the input before it is known whether it is text. -/
theorem outcome_nextLine_bind {h : Option String → Action Unit} :
    (nextLine >>= h).outcome m =
      (check ((Line.decode (Line.next m.input).1).mapError .channel) >>= h).outcome
        { m with input := (Line.next m.input).2 } :=
  rfl

theorem outcome_readInto (target : Variable) (tag : TypeTag) :
    (look (·.frames.checkAssignable target) >>= fun _ =>
      nextLine >>= fun line => assign target (Value.ofLine tag line)).outcome m =
    m.readLine target tag := by
  unfold Machine.readLine
  cases hcheck : m.frames.checkAssignable target with
  | error fault => exact outcome_look_error hcheck
  | ok checked =>
    refine (outcome_look_ok hcheck).trans (outcome_nextLine_bind.trans ?_)
    rcases Line.next m.input with ⟨line, rest⟩
    dsimp only
    cases Line.decode line with
    | error failure => rfl
    | ok text => exact outcome_assign target (Value.ofLine tag text)

/-! ## Channels of a machine -/

theorem outcome_append_bind {channel : Machine → Channel} {update : Machine → Channel → Machine}
    {text : String} {next : Unit → Action Unit} :
    (append channel update text >>= next).outcome m =
      if (channel m).fits text then (next ()).outcome (update m ((channel m).write text))
      else .failed (.channel .full) (update m ((channel m).write text)) := by
  have hsteps : (append channel update text >>= next).outcome m =
      ((if (channel m).fits text then pure () else throw (.channel .full) : Action Unit) >>=
        next).outcome (update m ((channel m).write text)) := rfl
  rw [hsteps]
  split
  next => rfl
  next => rfl

theorem outcome_append {channel : Machine → Channel} {update : Machine → Channel → Machine}
    {text : String} :
    (append channel update text).outcome m =
      if (channel m).fits text then .done (update m ((channel m).write text))
      else .failed (.channel .full) (update m ((channel m).write text)) := by
  rw [← bind_pure (append channel update text)]
  exact outcome_append_bind

theorem outcome_print (text : String) : (print text).outcome m = m.write text :=
  outcome_append

theorem outcome_report (text : String) : (report text).outcome m = m.report text :=
  outcome_append

theorem outcome_get_bind {next : Machine → Action Unit} :
    (get >>= next).outcome m = (next m).outcome m :=
  rfl

/-- Two texts that are written one after the other are written as one. -/
theorem outcome_report_bind {first second : String} {next : Unit → Action Unit}
    (hnext : (next ()).outcome { m with diagnostics := m.diagnostics.write first } =
      Machine.report { m with diagnostics := m.diagnostics.write first } second) :
    (report first >>= next).outcome m = m.report (first ++ second) := by
  refine outcome_append_bind.trans ?_
  rw [hnext]
  unfold Machine.report
  rw [Channel.fits_append]
  cases hfits : m.diagnostics.fits first with
  | true => rw [if_pos rfl, Channel.write_append, Bool.true_and]
  | false =>
    rw [if_neg Bool.false_ne_true, Channel.write_append_of_not_fits hfits, Bool.false_and]
    rfl

end Parts

/-! ## Actions of instructions -/

section Instructions

variable {i : Instruction} {labels : LabelTable} {m : Machine}

theorem outcome_store (value : Value) :
    (store i value).outcome m = m.perform (i.store value) :=
  check_bind _ fun target => outcome_assign target value

theorem outcome_pop : (pop i).outcome m = m.perform (do return .pop (← i.varAt 0)) :=
  check_bind _ outcome_popInto

theorem outcome_read : (read i).outcome m = m.perform i.read := by
  refine check_bind _ fun target => ?_
  refine check_bind _ fun tag => ?_
  exact outcome_readInto target tag

theorem outcome_arithmetic (operation : Word → Word → Option Word) :
    (arithmetic i operation).outcome m = m.perform (i.arithmetic m.frames operation) := by
  refine look_bind fun a => ?_
  refine look_bind fun b => ?_
  exact check_bind _ fun n => outcome_store _

theorem outcome_division : (division i).outcome m = m.perform (i.division m.frames) := by
  refine look_bind fun a => ?_
  refine look_bind fun b => ?_
  by_cases hzero : b = 0
  · rw [if_pos hzero, if_pos hzero]
    rfl
  · rw [if_neg hzero, if_neg hzero]
    exact check_bind _ fun n => outcome_store _

theorem outcome_comparison (accept : Ordering → Bool) :
    (comparison i accept).outcome m = m.perform (i.comparison m.frames accept) := by
  refine look_bind fun pair => ?_
  rcases pair with ⟨a, b⟩
  dsimp only
  cases a.compare? b with
  | some ordering => exact outcome_store _
  | none => rfl

theorem outcome_equality : (equality i).outcome m = m.perform (i.equality m.frames) :=
  look_bind fun _ => outcome_store _

theorem outcome_connective (operation : Bool → Bool → Bool) :
    (connective i operation).outcome m = m.perform (i.connective m.frames operation) := by
  refine look_bind fun a => ?_
  refine look_bind fun b => ?_
  exact outcome_store _

theorem outcome_negation : (negation i).outcome m = m.perform (i.negation m.frames) :=
  look_bind fun _ => outcome_store _

theorem outcome_charOfInt : (charOfInt i).outcome m = m.perform (i.charOfInt m.frames) := by
  refine look_bind fun n => ?_
  cases Instruction.charOfWord? n with
  | some c => exact outcome_store _
  | none => rfl

theorem outcome_intOfChar : (intOfChar i).outcome m = m.perform (i.intOfChar m.frames) := by
  refine look_bind fun s => ?_
  refine look_bind fun index => ?_
  exact check_bind _ fun c => outcome_store _

theorem outcome_concat : (concat i).outcome m = m.perform (i.concat m.frames) := by
  refine look_bind fun a => ?_
  refine look_bind fun b => ?_
  exact outcome_store _

theorem outcome_length : (length i).outcome m = m.perform (i.length m.frames) := by
  refine look_bind fun s => ?_
  exact check_bind _ fun n => outcome_store _

theorem outcome_getChar : (getChar i).outcome m = m.perform (i.getChar m.frames) := by
  refine look_bind fun s => ?_
  refine look_bind fun index => ?_
  exact check_bind _ fun c => outcome_store _

theorem outcome_setChar : (setChar i).outcome m = m.perform (i.setChar m.frames) := by
  refine check_bind _ fun target => ?_
  refine look_bind fun s => ?_
  refine look_bind fun index => ?_
  refine look_bind fun replacement => ?_
  refine check_bind _ fun position => ?_
  cases replacement.toList with
  | nil => rfl
  | cons c rest => exact outcome_assign target _

theorem outcome_typeOf : (typeOf i).outcome m = m.perform (i.typeOf m.frames) :=
  look_bind fun _ => outcome_store _

theorem outcome_jump :
    (jump labels i).outcome m = m.perform (do return .jump (← i.destination labels)) :=
  check_bind _ fun _ => rfl

theorem outcome_conditionalJump (wanted : Bool) :
    (conditionalJump labels i wanted).outcome m =
      m.perform (i.conditionalJump labels m.frames wanted) := by
  refine look_bind fun pair => ?_
  rcases pair with ⟨a, b⟩
  dsimp only
  by_cases htaken : (a == b) = wanted
  · rw [if_pos htaken, if_pos htaken]
    exact outcome_jump
  · rw [if_neg htaken, if_neg htaken]
    rfl

/-- The parts of a dump are written one after another, which no reader of the channel can tell from
a dump written at once. -/
theorem outcome_debugDump : (debugDump i).outcome m = m.report (i.dump m) := by
  unfold debugDump Instruction.dump
  -- No part of the dump depends on what has been written of it.
  refine outcome_get_bind.trans (outcome_report_bind ?_)
  refine outcome_get_bind.trans (outcome_report_bind ?_)
  exact outcome_get_bind.trans (outcome_report _)

end Instructions

end Action

namespace Instruction

variable {i : Instruction} {labels : LabelTable} {m : Machine}

/-- An instruction does what its effect does, and a fault of its operands leaves the machine as it
was. -/
theorem execute_eq : i.execute labels m = m.perform (i.effect labels m) := by
  unfold execute effect Action.ofInstruction
  cases i.opcode with
  | move => exact Action.look_bind fun _ => Action.outcome_store _
  | createFrame => rfl
  | pushFrame => exact Action.outcome_pushFrame
  | popFrame => exact Action.outcome_popFrame
  | declare => exact Action.check_bind _ fun _ => Action.outcome_onFrames _
  | call => exact Action.check_bind _ fun _ => rfl
  | ret => exact Action.outcome_ret
  | push => exact Action.look_bind fun _ => rfl
  | pop => exact Action.outcome_pop
  | add | sub | mul => exact Action.outcome_arithmetic _
  | floorDiv => exact Action.outcome_division
  | less | greater => exact Action.outcome_comparison _
  | equal => exact Action.outcome_equality
  | and | or => exact Action.outcome_connective _
  | not => exact Action.outcome_negation
  | charOfInt => exact Action.outcome_charOfInt
  | intOfChar => exact Action.outcome_intOfChar
  | read => exact Action.outcome_read
  | write => exact Action.look_bind fun _ => Action.outcome_print _
  | concat => exact Action.outcome_concat
  | length => exact Action.outcome_length
  | getChar => exact Action.outcome_getChar
  | setChar => exact Action.outcome_setChar
  | typeOf => exact Action.outcome_typeOf
  | label => rfl
  | jump => exact Action.outcome_jump
  | jumpIfEqual | jumpIfNotEqual => exact Action.outcome_conditionalJump _
  | debugWrite => exact Action.look_bind fun _ => Action.outcome_report _
  | debugDump => exact Action.outcome_debugDump

/-- An instruction has the outcome of its effect. -/
theorem execute_of_effect {e : Effect} (h : i.effect labels m = .ok e) :
    i.execute labels m = e.apply m := by
  rw [execute_eq, h]
  rfl

/-- An instruction without an effect fails and does nothing. -/
theorem execute_of_error {fault : Fault} (h : i.effect labels m = .error fault) :
    i.execute labels m = .failed fault m := by
  rw [execute_eq, h]
  rfl

/-- An instruction succeeds if it has an effect and the effect takes place. -/
theorem execute_eq_done_iff {after : Machine} :
    i.execute labels m = .done after ↔
      ∃ e, i.effect labels m = .ok e ∧ e.apply m = .done after := by
  cases heffect : i.effect labels m with
  | error found => simp [execute_of_error heffect]
  | ok e => simp [execute_of_effect heffect]

/-- An instruction fails before it has done anything, or its effect fails. -/
theorem execute_eq_failed_iff {fault : Fault} {after : Machine} :
    i.execute labels m = .failed fault after ↔
      (i.effect labels m = .error fault ∧ after = m) ∨
        ∃ e, i.effect labels m = .ok e ∧ e.apply m = .failed fault after := by
  cases heffect : i.effect labels m with
  | error found => simp [execute_of_error heffect, eq_comm]
  | ok e => simp [execute_of_effect heffect]

end Instruction

end FrameCode
