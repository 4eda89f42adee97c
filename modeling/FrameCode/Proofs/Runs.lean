import FrameCode.Machine.Run
import Mathlib.Logic.Relation

/-!
# Steps and runs

A machine goes from state to state by starting one instruction after another, and it can be run
again after an instruction has failed.  So a state is reached by any number of steps, whether they
succeed or fail, and what a run does is a number of such steps.

- `Machine.Step`, `Machine.Reaches`: one instruction, and any number of them
- `Machine.Reaches.invariant`: what every step keeps holds in every state that is reached
- `Machine.Ends`, `Machine.run_ends`: how a run ends
- `Machine.Calls`: one run after the other on the same machine
- `Machine.Log`: the instructions that have led from a state to another
-/

namespace FrameCode
namespace Machine

variable {p : Program} {m after : Machine}

/-! ## Steps -/

/-- The next instruction is started, and it succeeds or fails. -/
def Step (p : Program) (m after : Machine) : Prop :=
  ∃ i outcome, m.dispatch p = some (i, outcome) ∧ after = outcome.machine

/-- Any number of instructions, one after the other. -/
def Reaches (p : Program) : Machine → Machine → Prop :=
  Relation.ReflTransGen (Step p)

theorem dispatch_eq_some_iff {i : Instruction} {outcome : Outcome} :
    m.dispatch p = some (i, outcome) ↔
      p.instructions[m.pc]? = some i ∧ i.execute p.labels m.fetch = outcome := by
  unfold dispatch
  cases p.instructions[m.pc]? with
  | none => simp
  | some found =>
    simp only [Option.some.injEq, Prod.mk.injEq]
    constructor
    · intro h
      rcases h with ⟨rfl, houtcome⟩
      exact ⟨rfl, houtcome⟩
    · intro h
      rcases h with ⟨rfl, houtcome⟩
      exact ⟨rfl, houtcome⟩

namespace Reaches

theorem refl (m : Machine) : Reaches p m m :=
  Relation.ReflTransGen.refl

theorem of_dispatch {i : Instruction} {outcome : Outcome} (h : m.dispatch p = some (i, outcome)) :
    Reaches p m outcome.machine :=
  Relation.ReflTransGen.single ⟨i, outcome, h, rfl⟩

theorem trans {middle : Machine} (hfirst : Reaches p m middle) (hsecond : Reaches p middle after) :
    Reaches p m after :=
  Relation.ReflTransGen.trans hfirst hsecond

/-- What every step keeps holds in every state that is reached. -/
theorem invariant {P : Machine → Prop} (hreaches : Reaches p m after)
    (hstep : ∀ {m after}, Step p m after → P m → P after) (hm : P m) : P after := by
  induction hreaches with
  | refl => exact hm
  | tail _ hlast ih => exact hstep hlast ih

end Reaches

/-! ## Runs -/

/-- How a run ends in a state: there are no more instructions, or the next one fails. -/
inductive Ends (p : Program) (m : Machine) : Option RuntimeError → Machine → Prop
  | halted (h : m.dispatch p = none) : Ends p m none m
  | failed (i : Instruction) (fault : Fault) (after : Machine)
      (h : m.dispatch p = some (i, .failed fault after)) : Ends p m (some ⟨fault, i.order⟩) after

theorem Ends.reaches {error : Option RuntimeError} (h : m.Ends p error after) :
    Reaches p m after := by
  cases h with
  | halted _ => exact .refl m
  | failed _ _ _ hfailed => exact .of_dispatch hfailed

/-- A run that comes to an end reaches a state where it does. -/
theorem run_ends {fuel : Nat} {error : Option RuntimeError}
    (h : run p fuel m = some (error, after)) :
    ∃ last, Reaches p m last ∧ last.Ends p error after := by
  -- The fuel is the number of instructions that the run may start.
  induction fuel generalizing m with
  | zero => cases h
  | succ fuel ih =>
    simp only [run] at h
    split at h
    next hnone =>
      cases h
      exact ⟨_, .refl _, .halted hnone⟩
    next i next hdone =>
      rcases ih h with ⟨last, hreaches, hends⟩
      exact ⟨last, (Reaches.of_dispatch hdone).trans hreaches, hends⟩
    next i fault _ hfailed =>
      cases h
      exact ⟨m, .refl m, .failed i fault _ hfailed⟩

/-- One run after the other on the same machine, with what each of them returns. -/
inductive Calls (p : Program) : Machine → List (Option RuntimeError) → Machine → Prop
  | nil (m : Machine) : Calls p m [] m
  | cons {m middle after : Machine} {result : Option RuntimeError}
      {results : List (Option RuntimeError)} (fuel : Nat)
      (hrun : run p fuel m = some (result, middle)) (hlater : Calls p middle results after) :
      Calls p m (result :: results) after

namespace Calls

theorem reaches {results : List (Option RuntimeError)} (h : Calls p m results after) :
    Reaches p m after := by
  induction h with
  | nil m => exact .refl m
  | cons fuel hrun _ ih =>
    rcases run_ends hrun with ⟨last, hreaches, hends⟩
    exact (hreaches.trans hends.reaches).trans ih

/-- Every result of a run comes from the end of a run in a state that is reached. -/
theorem exists_ends {results : List (Option RuntimeError)} {result : Option RuntimeError}
    (h : Calls p m results after) (hmem : result ∈ results) :
    ∃ last next, Reaches p m last ∧ last.Ends p result next := by
  induction h with
  | nil => cases hmem
  | @cons m middle _ first _ fuel hrun _ ih =>
    rcases run_ends hrun with ⟨last, hreaches, hends⟩
    rcases List.mem_cons.1 hmem with rfl | hlater
    · exact ⟨last, middle, hreaches, hends⟩
    · -- A later run starts where this one has ended.
      rcases ih hlater with ⟨last', next, hreaches', hends'⟩
      exact ⟨last', next, (hreaches.trans hends.reaches).trans hreaches', hends'⟩

end Calls

/-! ## Logs -/

/-- An instruction that has been started, with the state before it and its outcome. -/
structure Event where
  before : Machine
  instruction : Instruction
  outcome : Outcome

/-- The instructions that have been started since a state, in their sequence, whether they have
succeeded or failed. -/
inductive Log (p : Program) (start : Machine) : List Event → Machine → Prop
  | nil : Log p start [] start
  | snoc {events : List Event} {m : Machine} {i : Instruction} {outcome : Outcome}
      (hlog : Log p start events m) (hdispatch : m.dispatch p = some (i, outcome)) :
      Log p start (events ++ [⟨m, i, outcome⟩]) outcome.machine

/-- A log tells what the next instruction has done each time. -/
theorem Log.dispatch_of_mem {start : Machine} {events : List Event} (h : Log p start events m)
    {event : Event} (hmem : event ∈ events) :
    event.before.dispatch p = some (event.instruction, event.outcome) := by
  induction h with
  | nil => cases hmem
  | snoc _ hdispatch ih =>
    rcases List.mem_append.1 hmem with hearlier | hlast
    · exact ih hearlier
    · rw [List.mem_singleton.1 hlast]
      exact hdispatch

/-- What has led to a state can be logged. -/
theorem Reaches.exists_log (h : Reaches p m after) : ∃ events, Log p m events after := by
  induction h with
  | refl => exact ⟨[], .nil⟩
  | tail _ hlast ih =>
    rcases ih with ⟨events, hlog⟩
    rcases hlast with ⟨i, outcome, hdispatch, rfl⟩
    exact ⟨_, hlog.snoc hdispatch⟩

theorem Log.reaches {start : Machine} {events : List Event} (h : Log p start events m) :
    Reaches p start m := by
  induction h with
  | nil => exact .refl start
  | snoc _ hdispatch ih => exact ih.trans (.of_dispatch hdispatch)

/-- A log can begin one instruction earlier. -/
theorem Log.cons {events : List Event} {i : Instruction} {outcome : Outcome}
    (hdispatch : m.dispatch p = some (i, outcome)) (h : Log p outcome.machine events after) :
    Log p m (⟨m, i, outcome⟩ :: events) after := by
  induction h with
  | nil => exact .snoc .nil hdispatch
  | snoc _ hlast ih => exact ih.snoc hlast

/-- A run that has not come to an end has started as many instructions as it was allowed. -/
theorem exists_log_of_run_eq_none {fuel : Nat} (h : run p fuel m = none) :
    ∃ events after, Log p m events after ∧ events.length = fuel := by
  induction fuel generalizing m with
  | zero => exact ⟨[], m, .nil, rfl⟩
  | succ fuel ih =>
    simp only [run] at h
    split at h
    next => cases h
    next i next hdone =>
      rcases ih h with ⟨events, after, hlog, hlength⟩
      exact ⟨_, after, hlog.cons hdone, congrArg (· + 1) hlength⟩
    next => cases h

end Machine
end FrameCode
