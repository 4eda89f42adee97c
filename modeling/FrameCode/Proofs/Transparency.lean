import FrameCode.Proofs.Renumbering

/-!
# Debug dumps are transparent

A debug dump writes to the diagnostics and leaves everything else alone.  So it may give way to the
definition of a label, as long as no instruction names that label: the two programs run in lockstep,
from fault to fault, and only their diagnostics differ.

The other labels stay where they are, because a label takes the place of a dump and nothing moves.

- `Instruction.Silences`, `Program.Silences`: labels in the place of some debug dumps
- `Program.sort_forall₂`, `Program.position?_of_silences`: sorting and labels do not tell them apart
- `Program.Alike`: the next instruction does the same in two programs, in all states that agree
- `Program.alike_of_silences`: a program and the same one with some dumps silenced are alike
- `Program.Alike.run`, `Program.Alike.calls`: programs that are alike have the same runs
- `Program.silences_inStep`: any number of instructions and of runs of the two programs
-/

namespace FrameCode

/-! ## Matching lists -/

section Lists

variable {α β : Type} {R : α → β → Prop} {as : List α} {bs : List β}

theorem rel_getElem?_of_forall₂ (h : List.Forall₂ R as bs) (k : Nat) :
    Option.Rel R as[k]? bs[k]? := by
  induction h generalizing k with
  | nil => exact .none
  | cons hhead _ ih =>
    cases k with
    | zero => exact .some hhead
    | succ k => exact ih k

theorem findIdx?_eq_of_forall₂ {p : α → Bool} {q : β → Bool} (h : List.Forall₂ R as bs)
    (hR : ∀ a b, R a b → p a = q b) : as.findIdx? p = bs.findIdx? q := by
  induction h with
  | nil => rfl
  | cons hhead _ ih => rw [List.findIdx?_cons, List.findIdx?_cons, hR _ _ hhead, ih]

end Lists

/-! ## Silenced dumps -/

/-- An instruction stays, or it is a debug dump and a label of the same order takes its place. -/
inductive Instruction.Silences (unused : String → Prop) : Instruction → Instruction → Prop
  | keep (i : Instruction) : Silences unused i i
  | label (i : Instruction) (name : String) (hop : i.opcode = .debugDump) (hname : unused name) :
      Silences unused i ⟨.label, i.order, [.label name]⟩

namespace Instruction

variable {i j : Instruction} {unused : String → Prop} {name : String}

theorem Silences.order_eq (h : i.Silences unused j) : j.order = i.order := by
  cases h with
  | keep => rfl
  | label => rfl

/-- Both define the same label, unless it is one of the new ones. -/
theorem Silences.definition?_eq_some_iff (h : i.Silences unused j) (hname : ¬ unused name) :
    i.definition? = some name ↔ j.definition? = some name := by
  cases h with
  | keep => exact Iff.rfl
  | label new hop hnew =>
    have hne : new ≠ name := fun heq => hname (heq ▸ hnew)
    simp [definition?, label?, hop, hne]

end Instruction

namespace Program

/-- No instruction has a label among its operands. -/
def Unused (instructions : List Instruction) (name : String) : Prop :=
  ∀ i ∈ instructions, .label name ∉ i.operands

/-- Labels that no instruction names have taken the place of some debug dumps.  They need not even
differ from each other. -/
def Silences (instructions others : List Instruction) : Prop :=
  List.Forall₂ (Instruction.Silences (Unused instructions)) instructions others

variable {instructions others : List Instruction}

/-- Lists that match place by place, with the same orders, still match after they are sorted. -/
theorem sort_forall₂ {R : Instruction → Instruction → Prop}
    (h : List.Forall₂ R instructions others) (hR : ∀ i j, R i j → j.order = i.order) :
    List.Forall₂ R (sort instructions) (sort others) := by
  -- Both are sorted as one list of pairs.
  have hlength : instructions.length = others.length := h.length_eq
  have hpairs : ∀ pair ∈ instructions.zip others, R pair.1 pair.2 :=
    fun _ hpair => List.forall₂_zip h hpair
  let sorted := (instructions.zip others).mergeSort fun a b => a.1.order.le b.1.order
  have hfirst : sort instructions = sorted.map Prod.fst := by
    have hmap : (instructions.zip others).map Prod.fst = instructions :=
      List.map_fst_zip hlength.le
    unfold sort
    nth_rewrite 1 [← hmap]
    refine (List.map_mergeSort ?_).symm
    intro a _ b _
    rfl
  have hsecond : sort others = sorted.map Prod.snd := by
    have hmap : (instructions.zip others).map Prod.snd = others :=
      List.map_snd_zip hlength.ge
    unfold sort
    nth_rewrite 1 [← hmap]
    refine (List.map_mergeSort ?_).symm
    intro a ha b hb
    rw [hR _ _ (hpairs a ha), hR _ _ (hpairs b hb)]
  rw [hfirst, hsecond, List.forall₂_map_left_iff, List.forall₂_map_right_iff, List.forall₂_same]
  intro pair hpair
  exact hpairs pair (List.mem_mergeSort.1 hpair)

/-- A label that some instruction names is found at the same position. -/
theorem position?_of_silences (h : Silences instructions others) {i : Instruction} {name : String}
    (hi : i ∈ instructions) (hname : .label name ∈ i.operands) :
    (ofInstructions others).labels.position? name =
      (ofInstructions instructions).labels.position? name := by
  have hused : ¬ Unused instructions name := fun hunused => hunused i hi hname
  have hsorted := sort_forall₂ h fun _ _ hsilences => hsilences.order_eq
  rw [position?_ofInstructions, position?_ofInstructions]
  refine (findIdx?_eq_of_forall₂ hsorted ?_).symm
  intro a b hsilences
  exact decide_eq_decide.2 (hsilences.definition?_eq_some_iff hused)

end Program

/-! ## One instruction -/

namespace Instruction

variable {i j : Instruction} {labels otherLabels : LabelTable} {m other : Machine}

theorem destination_congr
    (h : ∀ name, .label name ∈ i.operands → otherLabels.position? name = labels.position? name) :
    i.destination otherLabels = i.destination labels := by
  unfold destination
  cases hlabel : i.labelAt 0 with
  | error fault => rfl
  | ok name =>
    have hmem : .label name ∈ i.operands := List.mem_of_getElem? (labelAt_eq_ok_iff.1 hlabel)
    have hposition := h name hmem
    simp only [bind, Except.bind, hposition]

/-- But for a debug dump, the effect depends on the frames and on the labels that are named. -/
theorem effect_agrees (h : m.Agrees other) (hop : i.opcode ≠ .debugDump)
    (hlabels : ∀ name, .label name ∈ i.operands →
      otherLabels.position? name = labels.position? name) :
    i.effect otherLabels other = i.effect labels m := by
  have hdestination := destination_congr hlabels
  unfold effect conditionalJump
  rw [h.frames, hdestination]
  cases hi : i.opcode with
  | debugDump => exact absurd hi hop
  | _ => rfl

/-- An instruction and what takes its place do the same, where no dump can fail. -/
theorem execute_silences {unused : String → Prop} (hsilences : i.Silences unused j)
    (h : m.Agrees other)
    (hlabels : ∀ name, .label name ∈ i.operands →
      otherLabels.position? name = labels.position? name) :
    (i.execute labels m).Agrees (j.execute otherLabels other) := by
  cases hsilences with
  | keep =>
    by_cases hop : i.opcode = .debugDump
    · -- Both dump, and the diagnostics do not count.
      rw [execute_debugDump hop, execute_debugDump hop]
      exact Machine.report_agrees h _ _
    · rw [execute_eq, execute_eq, effect_agrees h hop hlabels]
      cases i.effect labels m with
      | error fault => exact .failed fault h
      | ok e => exact e.apply_agrees h
  | label name hop _ =>
    have hskip : execute ⟨.label, i.order, [.label name]⟩ otherLabels other = .done other := rfl
    rw [execute_debugDump hop, Machine.report_of_room h.unlimited.1, hskip]
    exact .done { h with
      unlimited := ⟨Channel.room_write h.unlimited.1 (i.dump m), h.unlimited.2⟩ }

end Instruction

/-! ## Programs that are alike -/

theorem Machine.Agrees.symm {m other : Machine} (h : m.Agrees other) : other.Agrees m where
  frames := h.frames.symm
  callStack := h.callStack.symm
  dataStack := h.dataStack.symm
  pc := h.pc.symm
  executed := h.executed.symm
  input := h.input.symm
  output := h.output.symm
  unlimited := h.unlimited.symm

theorem Outcome.Agrees.symm {outcome other : Outcome} (h : outcome.Agrees other) :
    other.Agrees outcome := by
  cases h with
  | done h => exact .done h.symm
  | failed fault h => exact .failed fault h.symm

namespace Machine

/-- Instructions of one order have been started, with outcomes that agree. -/
def SameStart (start other : Instruction × Outcome) : Prop :=
  other.1.order = start.1.order ∧ start.2.Agrees other.2

/-- Runs have ended with the same result, in states that agree. -/
def SameResult (ending other : Option RuntimeError × Machine) : Prop :=
  other.1 = ending.1 ∧ ending.2.Agrees other.2

end Machine

namespace Program

/-- In states that agree, the next instruction does the same in two programs, or neither has one. -/
def Alike (p q : Program) : Prop :=
  ∀ m other : Machine, m.Agrees other →
    Option.Rel Machine.SameStart (m.dispatch p) (other.dispatch q)

variable {p q : Program} {m other after : Machine}

theorem Alike.symm (h : p.Alike q) : q.Alike p := by
  intro other m hagrees
  have hstart := h m other hagrees.symm
  generalize m.dispatch p = start, other.dispatch q = otherStart at hstart
  cases hstart with
  | none => exact .none
  | some hsame => exact .some ⟨hsame.1.symm, hsame.2.symm⟩

theorem Alike.advance (h : p.Alike q) (hagrees : m.Agrees other) :
    (m.advance p).Agrees (other.advance q) := by
  have hstart := h m other hagrees
  unfold Machine.advance
  generalize m.dispatch p = start, other.dispatch q = otherStart at hstart
  cases hstart with
  | none => exact hagrees
  | some hsame => exact hsame.2.machine

/-- Programs that are alike stay together over any number of instructions. -/
theorem Alike.iterate_advance (h : p.Alike q) (hagrees : m.Agrees other) (n : Nat) :
    ((Machine.advance p)^[n] m).Agrees ((Machine.advance q)^[n] other) := by
  induction n with
  | zero => exact hagrees
  | succ n ih =>
    rw [Function.iterate_succ_apply', Function.iterate_succ_apply']
    exact h.advance ih

/-- Programs that are alike have the same runs: both end, with one result, or neither does. -/
theorem Alike.run (h : p.Alike q) (hagrees : m.Agrees other) (fuel : Nat) :
    Option.Rel Machine.SameResult (Machine.run p fuel m) (Machine.run q fuel other) := by
  induction fuel generalizing m other with
  | zero => exact .none
  | succ fuel ih =>
    have hstart := h m other hagrees
    unfold Machine.run
    generalize m.dispatch p = start, other.dispatch q = otherStart at hstart
    cases hstart with
    | none => exact .some ⟨rfl, hagrees⟩
    | @some start otherStart hsame =>
      rcases start with ⟨i, outcome⟩
      rcases otherStart with ⟨j, otherOutcome⟩
      have horder : j.order = i.order := hsame.1
      have houtcome : outcome.Agrees otherOutcome := hsame.2
      cases houtcome with
      | done hafter => exact ih hafter
      | failed fault hafter =>
        -- A failure ends both runs, and its error carries the order that both instructions have.
        dsimp only
        rw [horder]
        exact .some ⟨rfl, hafter⟩

/-- Programs that are alike have the same results, run after run. -/
theorem Alike.calls (h : p.Alike q) {results : List (Option RuntimeError)}
    (hcalls : Machine.Calls p m results after) (hagrees : m.Agrees other) :
    ∃ otherAfter, after.Agrees otherAfter ∧ Machine.Calls q other results otherAfter := by
  induction hcalls generalizing other with
  | nil m => exact ⟨other, hagrees, .nil other⟩
  | @cons m middle _ _ _ fuel hrun _ ih =>
    have hend := h.run hagrees fuel
    generalize hother : Machine.run q fuel other = otherEnd at hend
    rw [hrun] at hend
    cases hend with
    | @some _ ending hsame =>
      rcases ending with ⟨result, otherMiddle⟩
      rcases hsame with ⟨rfl, hmiddle⟩
      rcases ih hmiddle with ⟨otherAfter, hafter, hlater⟩
      exact ⟨otherAfter, hafter, .cons fuel hother hlater⟩

/-- A program is like the same one with some of its debug dumps silenced. -/
theorem alike_of_silences {instructions others : List Instruction}
    (h : Silences instructions others) :
    (ofInstructions instructions).Alike (ofInstructions others) := by
  intro m other hagrees
  have hsorted := sort_forall₂ h fun _ _ hsilences => hsilences.order_eq
  have hnext : Option.Rel (Instruction.Silences (Unused instructions))
      (ofInstructions instructions).instructions[m.pc]?
      (ofInstructions others).instructions[m.pc]? := by
    simpa only [ofInstructions, List.getElem?_toArray] using rel_getElem?_of_forall₂ hsorted m.pc
  unfold Machine.dispatch
  rw [hagrees.pc]
  generalize hj : (ofInstructions others).instructions[m.pc]? = otherNext at hnext
  cases hi : (ofInstructions instructions).instructions[m.pc]? with
  | none =>
    rw [hi] at hnext
    cases hnext
    exact .none
  | some i =>
    have hmem : i ∈ instructions :=
      (perm_ofInstructions instructions).mem_iff.2
        (Array.mem_toList_iff.2 (Array.mem_of_getElem? hi))
    rw [hi] at hnext
    cases hnext with
    | some hsilences =>
      refine .some ⟨hsilences.order_eq, Instruction.execute_silences hsilences hagrees.fetch ?_⟩
      intro name hname
      exact position?_of_silences h hmem hname

/-! ## Lockstep -/

/-- Two programs are in step: their states agree, and so do the next instruction, a run from there
and any number of runs. -/
structure InStep (p q : Program) (m other : Machine) : Prop where
  agrees : m.Agrees other
  start : Option.Rel Machine.SameStart (m.dispatch p) (other.dispatch q)
  run : ∀ fuel, Option.Rel Machine.SameResult (Machine.run p fuel m) (Machine.run q fuel other)
  calls : ∀ results after, Machine.Calls p m results after →
    ∃ otherAfter, after.Agrees otherAfter ∧ Machine.Calls q other results otherAfter
  otherCalls : ∀ results otherAfter, Machine.Calls q other results otherAfter →
    ∃ after, after.Agrees otherAfter ∧ Machine.Calls p m results after

theorem Alike.inStep (h : p.Alike q) (hagrees : m.Agrees other) : InStep p q m other where
  agrees := hagrees
  start := h m other hagrees
  run := h.run hagrees
  calls := fun _ _ hcalls => h.calls hcalls hagrees
  otherCalls := by
    intro results otherAfter hcalls
    rcases h.symm.calls hcalls hagrees.symm with ⟨after, hafter, hback⟩
    exact ⟨after, hafter.symm, hback⟩

/-- Where labels that no instruction names take the place of debug dumps, the two programs are in
step after any number of instructions, whether they have succeeded or failed, if the diagnostics of
both have no limit.  They are in step in all states that agree, and so after any number of runs as
well. -/
theorem silences_inStep (instructions others : List Instruction)
    (h : Silences instructions others) (input : List UInt8)
    (output diagnostics otherDiagnostics : Channel) (hroom : diagnostics.room = none)
    (hotherRoom : otherDiagnostics.room = none) :
    (∀ n : Nat, InStep (ofInstructions instructions) (ofInstructions others)
      ((Machine.advance (ofInstructions instructions))^[n] (.initial input output diagnostics))
      ((Machine.advance (ofInstructions others))^[n] (.initial input output otherDiagnostics))) ∧
    ∀ m other : Machine, m.Agrees other →
      InStep (ofInstructions instructions) (ofInstructions others) m other := by
  have halike : (ofInstructions instructions).Alike (ofInstructions others) := alike_of_silences h
  have hinitial : (Machine.initial input output diagnostics).Agrees
      (.initial input output otherDiagnostics) :=
    ⟨rfl, rfl, rfl, rfl, rfl, rfl, rfl, hroom, hotherRoom⟩
  constructor
  · intro n
    exact halike.inStep (halike.iterate_advance hinitial n)
  · intro m other hagrees
    exact halike.inStep hagrees

/-- The first of two dumps is silenced; then a frame is missing, and in the second run a jump leads
over the other dump. -/
theorem silences_inStep_first :
    Silences
      [⟨.debugDump, .ofInt 1, []⟩, ⟨.popFrame, .ofInt 2, []⟩, ⟨.jump, .ofInt 3, [.label "e"]⟩,
        ⟨.debugDump, .ofInt 4, []⟩, ⟨.label, .ofInt 5, [.label "e"]⟩]
      [⟨.label, .ofInt 1, [.label "x"]⟩, ⟨.popFrame, .ofInt 2, []⟩,
        ⟨.jump, .ofInt 3, [.label "e"]⟩, ⟨.debugDump, .ofInt 4, []⟩,
        ⟨.label, .ofInt 5, [.label "e"]⟩] ∧
    ∃ after other,
      Machine.Calls
        (ofInstructions [⟨.debugDump, .ofInt 1, []⟩, ⟨.popFrame, .ofInt 2, []⟩,
          ⟨.jump, .ofInt 3, [.label "e"]⟩, ⟨.debugDump, .ofInt 4, []⟩,
          ⟨.label, .ofInt 5, [.label "e"]⟩])
        (.initial [] (.ofRoom none) (.ofRoom none))
        [some ⟨.undefinedFrame .current, .ofInt 2⟩, none] after ∧
      Machine.Calls
        (ofInstructions [⟨.label, .ofInt 1, [.label "x"]⟩, ⟨.popFrame, .ofInt 2, []⟩,
          ⟨.jump, .ofInt 3, [.label "e"]⟩, ⟨.debugDump, .ofInt 4, []⟩,
          ⟨.label, .ofInt 5, [.label "e"]⟩])
        (.initial [] (.ofRoom none) (.ofRoom none))
        [some ⟨.undefinedFrame .current, .ofInt 2⟩, none] other ∧
      after.Agrees other ∧ after.executed = 4 ∧
      InStep
        (ofInstructions [⟨.debugDump, .ofInt 1, []⟩, ⟨.popFrame, .ofInt 2, []⟩,
          ⟨.jump, .ofInt 3, [.label "e"]⟩, ⟨.debugDump, .ofInt 4, []⟩,
          ⟨.label, .ofInt 5, [.label "e"]⟩])
        (ofInstructions [⟨.label, .ofInt 1, [.label "x"]⟩, ⟨.popFrame, .ofInt 2, []⟩,
          ⟨.jump, .ofInt 3, [.label "e"]⟩, ⟨.debugDump, .ofInt 4, []⟩,
          ⟨.label, .ofInt 5, [.label "e"]⟩]) after other := by
  have hsilences : Silences
      [⟨.debugDump, .ofInt 1, []⟩, ⟨.popFrame, .ofInt 2, []⟩, ⟨.jump, .ofInt 3, [.label "e"]⟩,
        ⟨.debugDump, .ofInt 4, []⟩, ⟨.label, .ofInt 5, [.label "e"]⟩]
      [⟨.label, .ofInt 1, [.label "x"]⟩, ⟨.popFrame, .ofInt 2, []⟩,
        ⟨.jump, .ofInt 3, [.label "e"]⟩, ⟨.debugDump, .ofInt 4, []⟩,
        ⟨.label, .ofInt 5, [.label "e"]⟩] :=
    .cons (.label ⟨.debugDump, .ofInt 1, []⟩ "x" rfl (by unfold Unused; decide))
      (List.forall₂_same.2 fun i _ => .keep i)
  have hcalls : ∃ after,
      Machine.Calls
        (ofInstructions [⟨.debugDump, .ofInt 1, []⟩, ⟨.popFrame, .ofInt 2, []⟩,
          ⟨.jump, .ofInt 3, [.label "e"]⟩, ⟨.debugDump, .ofInt 4, []⟩,
          ⟨.label, .ofInt 5, [.label "e"]⟩])
        (.initial [] (.ofRoom none) (.ofRoom none))
        [some ⟨.undefinedFrame .current, .ofInt 2⟩, none] after ∧ after.executed = 4 := by
    rw [ofInstructions_eq_of_ascending (by decide)]
    exact ⟨_, .cons 9 rfl (.cons 9 rfl (.nil _)), rfl⟩
  rcases hcalls with ⟨after, hcalls, hexecuted⟩
  rcases silences_inStep _ _ hsilences [] (.ofRoom none) (.ofRoom none) (.ofRoom none) rfl rfl with
    ⟨hsteps, hagreeing⟩
  rcases (hsteps 0).calls _ _ hcalls with ⟨other, hagrees, hother⟩
  exact ⟨hsilences, after, other, hcalls, hother, hagrees, hexecuted, hagreeing after other hagrees⟩

end Program

end FrameCode
