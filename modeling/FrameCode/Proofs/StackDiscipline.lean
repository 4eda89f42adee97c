import FrameCode.Proofs.Transitions
import Mathlib.Data.List.Infix

/-!
# The discipline of the stacks

Between a call and the return that belongs to it any code may run, with other calls, jumps and
failures; the same holds between a push and its pop.  No instruction touches a stack below its top,
and so what was put there is found again.

- `Machine.Until`: instructions up to the first one that closes a segment
- `Machine.IsStack`: how a stack may change from instruction to instruction
- `Machine.Until.stack_eq`: a segment that brings a stack back to its depth brings it back as a
  whole
- `Machine.segments_restore_stacks`: calls with their returns, and pushes with their pops
-/

namespace FrameCode

namespace Machine

variable {α : Type} {p : Program} {m last after : Machine} {j : Instruction}
  {closes : Instruction → Machine → Prop} {stack : Machine → List α} {op : Opcode}

/-! ## Segments -/

/-- Instructions one after the other, successful or not, up to the first that closes the segment.
It is started in the last state but one; whether an instruction closes the segment is told from the
state after it. -/
inductive Until (p : Program) (closes : Instruction → Machine → Prop) :
    Machine → Machine → Instruction → Machine → Prop
  | close {m after : Machine} {i : Instruction} (hexecutes : Executes p m i after)
      (hcloses : closes i after) : Until p closes m m i after
  | step {m middle last after : Machine} {i j : Instruction} (hexecutes : Executes p m i middle)
      (hopen : ¬ closes i middle) (hlater : Until p closes middle last j after) :
      Until p closes m last j after

/-- What every instruction of a segment keeps holds when the last one is started. -/
theorem Until.invariant {P : Machine → Prop} (h : Until p closes m last j after)
    (hstep : ∀ {m i middle}, Executes p m i middle → ¬ closes i middle → P m → P middle)
    (hm : P m) : P last ∧ Executes p last j after ∧ closes j after := by
  induction h with
  | close hexecutes hcloses => exact ⟨hm, hexecutes, hcloses⟩
  | step hexecutes hopen _ ih => exact ih (hstep hexecutes hopen hm)

/-! ## Stacks -/

/-- A part of the machine is a stack: an instruction leaves it as it is or puts one thing onto it,
and instructions of one opcode may take the top off. -/
def IsStack (p : Program) (stack : Machine → List α) (op : Opcode) : Prop :=
  ∀ m i after, Executes p m i after →
    stack after = stack m ∨ (∃ top, stack after = top :: stack m) ∨
      (i.opcode = op ∧ ∃ top, stack m = top :: stack after)

/-- What lies in a stack stays there as long as the stack is not brought back to the depth below
it. -/
theorem IsStack.suffix (hstack : IsStack p stack op) {i : Instruction} {middle : Machine} {top : α}
    {below : List α} (hexecutes : Executes p m i middle)
    (hopen : ¬ (i.opcode = op ∧ (stack middle).length = below.length))
    (hm : top :: below <:+ stack m) : top :: below <:+ stack middle := by
  rcases hstack m i middle hexecutes with hkeep | ⟨pushed, hpush⟩ | ⟨hop, popped, hpop⟩
  · rwa [hkeep]
  · rw [hpush]
    exact hm.trans (List.suffix_cons pushed _)
  · rw [hpop] at hm
    rcases List.suffix_cons_iff.1 hm with hwhole | hdeeper
    · -- The top itself is taken off, which closes the segment.
      have hbelow : below = stack middle := (List.cons.inj hwhole).2
      exact absurd ⟨hop, congrArg List.length hbelow.symm⟩ hopen
    · exact hdeeper

/-- A segment that begins with something on a stack, and ends when the stack is back at the depth
below it, takes off just that. -/
theorem Until.stack_eq (hstack : IsStack p stack op) {top : α} {below : List α}
    (h : Until p (fun i after => i.opcode = op ∧ (stack after).length = below.length)
      m last j after)
    (hm : stack m = top :: below) :
    Executes p last j after ∧ stack last = top :: below ∧ stack after = below := by
  -- Until the last instruction is started, nothing up to the top has been touched.
  have hstart : top :: below <:+ stack m := hm ▸ List.suffix_rfl
  rcases h.invariant hstack.suffix hstart with ⟨hlast, hexecutes, -, hdepth⟩
  have hdeep : (top :: below).length ≤ (stack last).length := hlast.length_le
  refine ⟨hexecutes, ?_⟩
  rcases hstack last j after hexecutes with hkeep | ⟨pushed, hpush⟩ | ⟨-, popped, hpop⟩
  · -- The depth goes down with the last instruction, so it is neither this case nor the next.
    rw [← hkeep, hdepth] at hdeep
    exact absurd hdeep (Nat.not_succ_le_self _)
  · have hgrown : (stack after).length = (stack last).length + 1 := congrArg List.length hpush
    have hless : below.length < (stack last).length := hdeep
    exact absurd (hdepth.symm.trans hgrown) (Nat.ne_of_lt (Nat.lt_succ_of_lt hless))
  · have hlength : (top :: below).length = (stack last).length := by
      rw [hpop, List.length_cons, List.length_cons, hdepth]
    have hwhole : top :: below = stack last := hlast.eq_of_length hlength
    have htail : popped :: stack after = top :: below := hpop.symm.trans hwhole.symm
    exact ⟨hwhole.symm, (List.cons.inj htail).2⟩

theorem isStack_callStack (p : Program) : IsStack p Machine.callStack .ret := by
  intro m i after hexecutes
  cases hexecutes.transfers with
  | next _ hstack => exact .inl hstack
  | jump _ _ _ hstack => exact .inl hstack
  | call _ _ _ hstack => exact .inr (.inl ⟨_, hstack⟩)
  | ret hop hstack => exact .inr (.inr ⟨hop, _, hstack⟩)

theorem isStack_dataStack (p : Program) : IsStack p Machine.dataStack .pop := by
  intro m i after hexecutes
  cases hexecutes.shifts with
  | keep hstack => exact .inl hstack
  | push _ value _ hstack => exact .inr (.inl ⟨value, hstack⟩)
  | pop hop _ value _ hstack _ => exact .inr (.inr ⟨hop, value, hstack⟩)

/-! ## Calls and pushes -/

/-- A stack that has lost its top was neither kept nor extended. -/
theorem ne_of_eq_cons {before below : List α} {top : α} (h : before = top :: below) :
    below ≠ before ∧ ∀ pushed, below ≠ pushed :: before := by
  subst h
  refine ⟨(List.cons_ne_self _ _).symm, ?_⟩
  intro pushed heq
  have hlength : below.length = below.length + 1 + 1 := congrArg List.length heq
  omega

/-- The instruction that takes the top off the call stack goes on there. -/
theorem Executes.pc_of_callStack {i : Instruction} {position : Nat}
    (h : Executes p m i after) (hm : m.callStack = position :: after.callStack) :
    after.pc = position := by
  cases h.transfers with
  | next _ hstack => exact absurd hstack (ne_of_eq_cons hm).1
  | jump _ _ _ hstack => exact absurd hstack (ne_of_eq_cons hm).1
  | call _ _ _ hstack => exact absurd hstack ((ne_of_eq_cons hm).2 _)
  | ret _ hstack => exact (List.cons.inj (hstack.symm.trans hm)).1

/-- The instruction that takes the top off the data stack assigns it to its operand. -/
theorem Executes.assigns_of_dataStack {i : Instruction} {value : Value}
    (h : Executes p m i after) (hm : m.dataStack = value :: after.dataStack) :
    ∃ target, i.operands[0]? = some (.var target) ∧
      m.frames.assign target value = .ok after.frames := by
  cases h.shifts with
  | keep hstack => exact absurd hstack (ne_of_eq_cons hm).1
  | push _ _ _ hstack => exact absurd hstack ((ne_of_eq_cons hm).2 _)
  | pop _ target popped htarget hstack hframes =>
    have hsame : popped = value := (List.cons.inj (hstack.symm.trans hm)).1
    exact ⟨target, htarget, hsame ▸ hframes⟩

/-- From a call to the first return that brings the call stack back to its depth: the return goes on
behind the call, with the call stack of before.  From a push to the first pop that brings the data
stack back to its depth: the pop assigns what was pushed, with the data stack of before. -/
theorem segments_restore_stacks :
    (∀ (p : Program) (m opened last after : Machine) (i j : Instruction),
      m.dispatch p = some (i, .done opened) → i.opcode = .call →
      Until p (fun i after =>
        i.opcode = .ret ∧ after.callStack.length = m.callStack.length) opened last j after →
      after.pc = m.pc + 1 ∧ after.callStack = m.callStack) ∧
    ∀ (p : Program) (m opened last after : Machine) (i j : Instruction) (value : Value),
      m.dispatch p = some (i, .done opened) → i.opcode = .push → i.HasValue m.frames 0 value →
      Until p (fun i after =>
        i.opcode = .pop ∧ after.dataStack.length = m.dataStack.length) opened last j after →
      (∃ target, j.operands[0]? = some (.var target) ∧
        last.frames.assign target value = .ok after.frames ∧
        after.frames.Holds target (some value)) ∧
      after.dataStack = m.dataStack := by
  constructor
  · intro p m opened last after i j hdispatch hop huntil
    rcases dispatch_eq_some_iff.1 hdispatch with ⟨-, hexecute⟩
    have hopened : opened.callStack = m.fetch.pc :: m.fetch.callStack :=
      Instruction.execute_call_done hop hexecute
    rcases huntil.stack_eq (isStack_callStack p) hopened with ⟨hexecutes, hlast, hafter⟩
    exact ⟨hexecutes.pc_of_callStack (hafter.symm ▸ hlast), hafter⟩
  · intro p m opened last after i j value hdispatch hop hvalue huntil
    rcases dispatch_eq_some_iff.1 hdispatch with ⟨-, hexecute⟩
    have hfetched : i.HasValue m.fetch.frames 0 value := hvalue
    have hopened : opened.dataStack = value :: m.fetch.dataStack :=
      Instruction.execute_push_done hop hfetched hexecute
    rcases huntil.stack_eq (isStack_dataStack p) hopened with ⟨hexecutes, hlast, hafter⟩
    rcases hexecutes.assigns_of_dataStack (hafter.symm ▸ hlast) with ⟨target, htarget, hframes⟩
    exact ⟨⟨target, htarget, hframes, Frames.holds_of_assign hframes⟩, hafter⟩

/-- An instruction fails inside each of the segments. -/
theorem segments_restore_stacks_failure :
    (∃ (p : Program) (m opened last after : Machine) (i j : Instruction),
      m.dispatch p = some (i, .done opened) ∧ i.opcode = .call ∧
      Until p (fun i after =>
        i.opcode = .ret ∧ after.callStack.length = m.callStack.length) opened last j after ∧
      after.pc = m.pc + 1 ∧ after.callStack = m.callStack) ∧
    ∃ (p : Program) (m opened last after : Machine) (i j : Instruction),
      m.dispatch p = some (i, .done opened) ∧ i.opcode = .push ∧
      i.HasValue m.frames 0 (.int 5) ∧
      Until p (fun i after =>
        i.opcode = .pop ∧ after.dataStack.length = m.dataStack.length) opened last j after ∧
      (∃ target, j.operands[0]? = some (.var target) ∧
        last.frames.assign target (.int 5) = .ok after.frames ∧
        after.frames.Holds target (some (.int 5))) ∧
      after.dataStack = m.dataStack := by
  constructor
  · have hsegment : ∃ last after j, Until
        ⟨#[⟨.call, .ofInt 1, [.label "f"]⟩, ⟨.label, .ofInt 2, [.label "f"]⟩,
          ⟨.popFrame, .ofInt 3, []⟩, ⟨.ret, .ofInt 4, []⟩], LabelTable.empty.insert "f" 1⟩
        (fun i after => i.opcode = .ret ∧
          after.callStack.length = (initial [] (.ofRoom none) (.ofRoom none)).callStack.length)
        ⟨.initial, [1], [], 1, 1, [], .ofRoom none, .ofRoom none⟩ last j after :=
      ⟨_, _, _, .step ⟨_, rfl, rfl⟩ (by decide) (.step ⟨_, rfl, rfl⟩ (by decide)
        (.close ⟨_, rfl, rfl⟩ ⟨rfl, rfl⟩))⟩
    rcases hsegment with ⟨last, after, j, hsegment⟩
    exact ⟨_, .initial [] (.ofRoom none) (.ofRoom none), _, last, after, _, j, rfl, rfl, hsegment,
      segments_restore_stacks.1 _ _ _ _ _ _ _ rfl rfl hsegment⟩
  · have hsegment : ∃ last after j, Until
        ⟨#[⟨.push, .ofInt 1, [.literal (.int 5)]⟩, ⟨.popFrame, .ofInt 2, []⟩,
          ⟨.pop, .ofInt 3, [.var ⟨.global, "x"⟩]⟩], .empty⟩
        (fun i after => i.opcode = .pop ∧ after.dataStack.length = ([] : List Value).length)
        ⟨⟨Frame.empty.put "x" none, [], none⟩, [], [.int 5], 1, 1, [], .ofRoom none, .ofRoom none⟩
        last j after :=
      ⟨_, _, _, .step ⟨_, rfl, rfl⟩ (by decide) (.close ⟨_, rfl, rfl⟩ ⟨rfl, rfl⟩)⟩
    have hvalue : (⟨.push, .ofInt 1, [.literal (.int 5)]⟩ : Instruction).HasValue
        ⟨Frame.empty.put "x" none, [], none⟩ 0 (.int 5) :=
      ⟨.literal (.int 5), rfl, rfl⟩
    rcases hsegment with ⟨last, after, j, hsegment⟩
    exact ⟨_,
      ⟨⟨Frame.empty.put "x" none, [], none⟩, [], [], 0, 0, [], .ofRoom none, .ofRoom none⟩,
      _, last, after, _, j, rfl, rfl, hvalue, hsegment,
      segments_restore_stacks.2 _ _ _ _ _ _ _ _ rfl rfl hvalue hsegment⟩

end Machine

end FrameCode
