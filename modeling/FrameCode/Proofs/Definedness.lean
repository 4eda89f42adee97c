import FrameCode.Proofs.FaultOrigin
import FrameCode.Proofs.LocalFrames

/-!
# Variables stay defined

No instruction takes back a declaration or a value.  So a variable that is declared stays declared
as long as its frame is there, and once it has been assigned it always holds a value, though not
always the same one.  The global frame is there for ever; a local frame is there as long as the
stack of local frames reaches up to it.

- `Frame.Grows`: a frame declares what another one does, with values where that one has some
- `Frames.local?`: the local frames by numbers that do not change while the frames are there
- `Machine.Executes.grow`: what one instruction does to the frames
- `Machine.Log.global_grows`, `Machine.Log.local_grows`: what any number of them do
- `Instruction.denies_of_failed`: a fault about a variable means that it has no value
- `Machine.definedness_persists`: declarations and values persist, so that a global variable is
  declared once and can be read at any time after it has been assigned
-/

namespace FrameCode

/-! ## Frames that grow -/

namespace Frame

variable {frame middle after : Frame}

/-- What a frame declares is declared in a later one, and what holds a value there holds a value in
the later one. -/
structure Grows (frame after : Frame) : Prop where
  declared : ∀ name, frame.contains name = true → after.contains name = true
  assigned : ∀ name value, frame.slot? name = some (some value) →
    ∃ later, after.slot? name = some (some later)

theorem Grows.refl (frame : Frame) : frame.Grows frame :=
  ⟨fun _ hdeclared => hdeclared, fun _ value hvalue => ⟨value, hvalue⟩⟩

theorem Grows.trans (hfirst : frame.Grows middle) (hsecond : middle.Grows after) :
    frame.Grows after where
  declared := fun name hdeclared => hsecond.declared name (hfirst.declared name hdeclared)
  assigned := by
    intro name value hvalue
    rcases hfirst.assigned name value hvalue with ⟨other, hother⟩
    exact hsecond.assigned name other hother

/-- A new slot, or a new content for a slot: it may be empty only if there was no value before. -/
theorem grows_put (frame : Frame) (name : String) {content : Option Value}
    (h : ∀ value, frame.slot? name = some (some value) → content ≠ none) :
    frame.Grows (frame.put name content) where
  declared := by
    intro other hdeclared
    unfold contains at hdeclared ⊢
    by_cases hname : other = name
    · subst hname
      rw [slot?_put_self, Option.isSome_some]
    · rwa [slot?_put_of_ne frame content hname]
  assigned := by
    intro other value hvalue
    by_cases hname : other = name
    · subst hname
      rcases Option.ne_none_iff_exists'.1 (h value hvalue) with ⟨later, rfl⟩
      exact ⟨later, slot?_put_self frame other (some later)⟩
    · exact ⟨value, (slot?_put_of_ne frame content hname).trans hvalue⟩

end Frame

namespace Frames

variable {frames after : Frames} {top frame : Frame} {below : List Frame} {index : Nat}

/-- The local frame of a number, where the frame at the bottom of the stack has the number zero. -/
def local? (frames : Frames) (index : Nat) : Option Frame :=
  frames.locals.reverse[index]?

theorem lt_length_of_local? (h : frames.local? index = some frame) :
    index < frames.locals.length := by
  rcases List.getElem?_eq_some_iff.1 h with ⟨hindex, -⟩
  rwa [List.length_reverse] at hindex

/-- Frames below the top have the numbers that they have without it. -/
theorem local?_of_lt (h : frames.locals = top :: below) (hindex : index < below.length) :
    frames.local? index = below.reverse[index]? := by
  unfold local?
  rw [h, List.reverse_cons, List.getElem?_append_left (by simpa using hindex)]

theorem local?_top (h : frames.locals = top :: below) :
    frames.local? below.length = some top := by
  unfold local?
  rw [h, List.reverse_cons, List.getElem?_append_right (by simp)]
  simp

/-- The frames grow, except that local frames may go. -/
structure Grow (frames after : Frames) : Prop where
  global : frames.global.Grows after.global
  locals : ∀ index frame, frames.local? index = some frame → index < after.locals.length →
    ∃ later, after.local? index = some later ∧ frame.Grows later

/-- Local frames that keep their numbers stay as they are. -/
theorem grow_of_local? (hglobal : after.global = frames.global)
    (hlocals : ∀ index, index < frames.locals.length → index < after.locals.length →
      after.local? index = frames.local? index) : frames.Grow after where
  global := hglobal ▸ .refl frames.global
  locals := by
    intro index frame hframe hdepth
    refine ⟨frame, ?_, .refl frame⟩
    rw [hlocals index (lt_length_of_local? hframe) hdepth, hframe]

theorem grow_of_locals_eq (hglobal : after.global = frames.global)
    (hlocals : after.locals = frames.locals) : frames.Grow after := by
  refine grow_of_local? hglobal fun index _ _ => ?_
  unfold local?
  rw [hlocals]

/-- A frame that exists is replaced by one that it grows into. -/
theorem grow_setFrame {scope : Scope} (h : frames.frame? scope = some top)
    (hgrows : top.Grows frame) : frames.Grow (frames.setFrame scope frame) := by
  cases scope with
  | temporary => exact grow_of_locals_eq rfl rfl
  | global =>
    have htop : frames.global = top := Option.some.inj h
    refine ⟨htop ▸ hgrows, ?_⟩
    intro index found hfound _
    exact ⟨found, hfound, .refl found⟩
  | current =>
    rcases List.head?_eq_some_iff.1 h with ⟨below, hbelow⟩
    have hafter : (frames.setFrame .current frame).locals = frame :: below := by
      simp only [setFrame, hbelow, List.tail_cons]
    refine ⟨.refl frames.global, ?_⟩
    intro index found hfound hdepth
    rw [hafter, List.length_cons] at hdepth
    -- The top has the highest number, and the others are below it.
    rcases Nat.lt_succ_iff_lt_or_eq.1 hdepth with hlower | rfl
    · refine ⟨found, ?_, .refl found⟩
      rw [local?_of_lt hafter hlower, ← local?_of_lt hbelow hlower, hfound]
    · have hsame : top = found := Option.some.inj ((local?_top hbelow).symm.trans hfound)
      exact ⟨frame, local?_top hafter, hsame ▸ hgrows⟩

theorem grow_of_assign {v : Variable} {value : Value} (h : frames.assign v value = .ok after) :
    frames.Grow after := by
  rcases assign_eq_ok_iff.1 h with ⟨frame, hframe, -, rfl⟩
  exact grow_setFrame hframe (frame.grows_put v.name fun _ _ => Option.some_ne_none value)

theorem grow_of_declare {v : Variable} (h : frames.declare v = .ok after) :
    frames.Grow after := by
  rcases declare_eq_ok_iff.1 h with ⟨frame, hframe, hfresh, rfl⟩
  refine grow_setFrame hframe (frame.grows_put v.name ?_)
  -- The name was not declared, so the empty slot is put in the place of nothing.
  intro value hvalue
  simp [Frame.contains, hvalue] at hfresh

end Frames

/-! ## Instructions -/

namespace Machine

variable {p : Program} {m start after : Machine} {i : Instruction} {events : List Event}

/-- Every instruction lets the frames grow, whether it succeeds or fails. -/
theorem Executes.grow (h : Executes p m i after) : m.frames.Grow after.frames := by
  rcases h.cases with ⟨e, -, hplace⟩ | hretains
  · cases hplace with
    | assign _ _ _ hframes => exact Frames.grow_of_assign hframes
    | declare _ _ hframes => exact Frames.grow_of_declare hframes
    | pop _ _ _ _ _ hframes => exact Frames.grow_of_assign hframes
    | read _ _ _ _ _ hframes => exact Frames.grow_of_assign hframes
    | pushFrame frames hframes =>
      rcases Frames.pushTemporary_eq_ok_iff.1 hframes with ⟨frame, -, rfl⟩
      exact Frames.grow_of_local? rfl fun index hindex _ => Frames.local?_of_lt rfl hindex
    | popFrame frame frames hframes =>
      rcases Frames.popLocal_eq_ok_iff.1 hframes with ⟨below, hlocals, rfl⟩
      exact Frames.grow_of_local? rfl fun index _ hindex =>
        (Frames.local?_of_lt hlocals hindex).symm
    -- Nothing else reaches the global or the local frames.
    | _ => exact Frames.grow_of_locals_eq rfl rfl
  · exact Frames.grow_of_locals_eq (congrArg Frames.global hretains.frames)
      (congrArg Frames.locals hretains.frames)

/-! ## Any number of instructions -/

theorem Log.global_grows (h : Log p start events m) :
    start.frames.global.Grows m.frames.global := by
  induction h with
  | nil => exact .refl start.frames.global
  | snoc _ hdispatch ih => exact ih.trans (Executes.grow ⟨_, hdispatch, rfl⟩).global

/-- A local frame grows as long as the stack of local frames reaches up to it. -/
theorem Log.local_grows {index : Nat} {frame : Frame} (h : Log p start events m)
    (hframe : start.frames.local? index = some frame)
    (hdepth : ∀ event ∈ events, index < event.outcome.machine.frames.locals.length) :
    ∃ later, m.frames.local? index = some later ∧ frame.Grows later := by
  induction h with
  | nil => exact ⟨frame, hframe, .refl frame⟩
  | snoc _ hdispatch ih =>
    rcases List.forall_mem_append.1 hdepth with ⟨hearlier, hlast⟩
    rcases ih hearlier with ⟨middle, hmiddle, hfirst⟩
    have hgrow := Executes.grow ⟨_, hdispatch, rfl⟩
    rcases hgrow.locals index middle hmiddle (hlast _ List.mem_cons_self) with
      ⟨later, hlater, hsecond⟩
    exact ⟨later, hlater, hfirst.trans hsecond⟩

/-! ## Declarations of global variables -/

/-- An instruction has declared a variable in the global frame. -/
def Event.Introduces (event : Event) (name : String) : Prop :=
  event.instruction.opcode = .declare ∧
    event.instruction.operands[0]? = some (.var ⟨.global, name⟩) ∧
    ∃ after, event.outcome = .done after

/-- A declaration that succeeds adds a name that was not there. -/
theorem contains_of_introduces {outcome : Outcome} {name : String}
    (h : m.dispatch p = some (i, outcome)) (hintroduces : Event.Introduces ⟨m, i, outcome⟩ name) :
    m.frames.global.contains name = false ∧
      outcome.machine.frames.global.contains name = true := by
  rcases hintroduces with ⟨hop, hoperand, after, rfl⟩
  rcases Instruction.execute_done_cases (dispatch_eq_some_iff.1 h).2 with ⟨e, hperforms, hplace⟩
  cases hperforms with
  | declare v _ hv =>
    have hsame : v = ⟨.global, name⟩ := by simpa using hv.symm.trans hoperand
    subst hsame
    cases hplace with
    | declare _ frames hframes =>
      rcases Frames.declare_eq_ok_iff.1 hframes with ⟨frame, hframe, hfresh, rfl⟩
      cases hframe
      exact ⟨hfresh, by simp [Outcome.machine, Frames.setFrame, Frame.contains]⟩
  | _ => simp_all [Opcode.storing]

/-- A name that has been declared in the global frame is there. -/
theorem Log.contains_of_introduces {name : String} (h : Log p start events m) {event : Event}
    (hevent : event ∈ events) (hintroduces : event.Introduces name) :
    m.frames.global.contains name = true := by
  induction h with
  | nil => cases hevent
  | snoc _ hdispatch ih =>
    rcases List.mem_append.1 hevent with hearlier | hlast
    · exact (Executes.grow ⟨_, hdispatch, rfl⟩).global.declared name (ih hearlier)
    · cases List.mem_singleton.1 hlast
      exact (Machine.contains_of_introduces hdispatch hintroduces).2

/-- No name is declared in the global frame a second time. -/
theorem Log.introduces_once (h : Log p start events m) :
    events.Pairwise fun first second =>
      ∀ name, first.Introduces name → ¬ second.Introduces name := by
  induction h with
  | nil => exact .nil
  | @snoc events m i outcome hlog hdispatch ih =>
    refine List.pairwise_append.2 ⟨ih, List.pairwise_singleton .., ?_⟩
    intro first hfirst second hsecond name hintroduces hagain
    cases List.mem_singleton.1 hsecond
    have hthere := hlog.contains_of_introduces hfirst hintroduces
    rw [(Machine.contains_of_introduces hdispatch hagain).1] at hthere
    cases hthere

end Machine

/-! ## Faults about variables -/

/-- A fault says that a variable is not declared, or that it has no value. -/
def Fault.Denies (fault : Fault) (v : Variable) : Prop :=
  fault = .undefinedVariable v ∨ fault = .unassigned v

namespace Effect

/-- An effect fails with a fault about a variable only if the variable is not declared. -/
theorem not_declares_of_apply {m after : Machine} {e : Effect} {fault : Fault} {v : Variable}
    (h : e.apply m = .failed fault after) (hdenies : fault.Denies v) : ¬ m.frames.Declares v := by
  cases failsWith_of_apply h with
  | refused _ _ hrefuses =>
    cases hrefuses with
    | undefinedVariable _ w _ hdeclares =>
      have hsame : w = v := by simpa [Fault.Denies] using hdenies
      rwa [← hsame]
    | _ => simp [Fault.Denies] at hdenies
  | _ => simp [Fault.Denies] at hdenies

end Effect

namespace Instruction

variable {i : Instruction} {labels : LabelTable} {m after : Machine} {fault : Fault} {v : Variable}

theorem Raises.not_holds (h : i.Raises m.frames fault) (hdenies : fault.Denies v) (value : Value) :
    ¬ m.frames.Holds v (some value) := by
  cases h with
  | malformed _ => simp [Fault.Denies] at hdenies
  | undefinedLabel _ _ => simp [Fault.Denies] at hdenies
  | unsuitable _ hclass =>
    rcases hdenies with rfl | rfl <;> simp [Fault.errorClass] at hclass
  | unreadable w _ _ hfault hvalue =>
    have hsame : w = v := by
      simp only [List.mem_cons, List.not_mem_nil, or_false] at hfault
      rcases hfault with rfl | rfl | rfl
      · simp [Fault.Denies] at hdenies
      · simpa [Fault.Denies] using hdenies
      · simpa [Fault.Denies] using hdenies
    exact hsame ▸ hvalue value

/-- An instruction that fails with a fault about a variable has found it without a value. -/
theorem denies_of_failed (h : i.execute labels m = .failed fault after)
    (hdenies : fault.Denies v) (value : Value) : ¬ m.frames.Holds v (some value) := by
  rcases execute_eq_failed_iff.1 h with ⟨hoperands, -⟩ | ⟨e, -, happly⟩
  · exact (effect_explains i labels m fault hoperands).not_holds hdenies value
  · exact fun hholds => Effect.not_declares_of_apply happly hdenies ⟨some value, hholds⟩

end Instruction

/-! ## Runs -/

/-- A global variable is a slot of the global frame. -/
theorem Frames.holds_global_iff {frames : Frames} {name : String} {content : Option Value} :
    frames.Holds ⟨.global, name⟩ content ↔ frames.global.slot? name = some content := by
  simp [Holds, frame?]

namespace Machine

/-- Any number of instructions, successful or not, take back neither a declaration nor a value: not
in the global frame, and not in a local frame that is there all the time.  So a global variable is
declared at most once, and once it holds a value it can be read ever after, and no fault says
otherwise. -/
theorem definedness_persists (p : Program) (m after : Machine) (events : List Event)
    (hlog : Log p m events after) :
    m.frames.global.Grows after.frames.global ∧
      (∀ index frame, m.frames.local? index = some frame →
        (∀ event ∈ events, index < event.outcome.machine.frames.locals.length) →
        ∃ later, after.frames.local? index = some later ∧ frame.Grows later) ∧
      (events.Pairwise fun first second =>
        ∀ name, first.Introduces name → ¬ second.Introduces name) ∧
      ∀ name value, m.frames.Holds ⟨.global, name⟩ (some value) →
        (∃ later, after.frames.read ⟨.global, name⟩ = .ok (some later)) ∧
        ∀ i fault last, after.dispatch p = some (i, .failed fault last) →
          fault ≠ .undefinedVariable ⟨.global, name⟩ ∧ fault ≠ .unassigned ⟨.global, name⟩ := by
  refine ⟨hlog.global_grows, fun index frame => hlog.local_grows, hlog.introduces_once, ?_⟩
  intro name value hvalue
  rcases hlog.global_grows.assigned name value (Frames.holds_global_iff.1 hvalue) with
    ⟨later, hlater⟩
  have hholds : after.frames.Holds ⟨.global, name⟩ (some later) :=
    Frames.holds_global_iff.2 hlater
  refine ⟨⟨later, Frames.read_eq_ok_iff.2 hholds⟩, ?_⟩
  intro i fault last hdispatch
  have hfailed := (dispatch_eq_some_iff.1 hdispatch).2
  have hreadable : ¬ fault.Denies ⟨.global, name⟩ := fun hdenies =>
    Instruction.denies_of_failed hfailed hdenies later hholds
  exact ⟨fun hfault => hreadable (.inl hfault), fun hfault => hreadable (.inr hfault)⟩

/-- A global variable is declared again, which fails; then a frame is pushed onto a local frame and
popped, and a variable of that local frame receives a value. -/
theorem definedness_persists_resumed :
    ∃ (p : Program) (m after : Machine) (events : List Event),
      Log p m events after ∧ events.length = 5 ∧
      m.frames.global = Frame.empty.put "x" (some (.int 5)) ∧
      m.frames.local? 0 = some (Frame.empty.put "y" none) ∧
      (∀ event ∈ events, 0 < event.outcome.machine.frames.locals.length) ∧
      m.frames.global.Grows after.frames.global ∧
      (∃ later, after.frames.local? 0 = some later ∧ (Frame.empty.put "y" none).Grows later) ∧
      (∃ later, after.frames.read ⟨.global, "x"⟩ = .ok (some later)) ∧
      after.frames.local? 0 = some (Frame.empty.put "y" (some (.int 5))) := by
  let start : Machine :=
    ⟨⟨Frame.empty.put "x" (some (.int 5)), [Frame.empty.put "y" none], none⟩, [], [], 0, 0, [],
      .ofRoom none, .ofRoom none⟩
  let created : Machine :=
    { start with frames := start.frames.createTemporary, pc := 2, executed := 2 }
  let pushed : Machine :=
    { start with
      frames := ⟨start.frames.global, [.empty, Frame.empty.put "y" none], none⟩, pc := 3,
      executed := 3 }
  let popped : Machine := { start with pc := 4, executed := 4 }
  let last : Machine :=
    { start with
      frames := ⟨start.frames.global, [Frame.empty.put "y" (some (.int 5))], none⟩, pc := 5,
      executed := 5 }
  let p : Program :=
    ⟨#[⟨.declare, .ofInt 1, [.var ⟨.global, "x"⟩]⟩, ⟨.createFrame, .ofInt 2, []⟩,
      ⟨.pushFrame, .ofInt 3, []⟩, ⟨.popFrame, .ofInt 4, []⟩,
      ⟨.move, .ofInt 5, [.var ⟨.current, "y"⟩, .var ⟨.global, "x"⟩]⟩], .empty⟩
  have hfirst : start.dispatch p =
    some (_, .failed (.redefinition ⟨.global, "x"⟩) start.fetch) := rfl
  have hsecond : start.fetch.dispatch p = some (_, .done created) := rfl
  have hthird : created.dispatch p = some (_, .done pushed) := rfl
  have hfourth : pushed.dispatch p = some (_, .done popped) := rfl
  have hfifth : popped.dispatch p = some (_, .done last) := rfl
  have hevents : ∃ events, Log p start events last ∧ events.length = 5 ∧
      ∀ event ∈ events, 0 < event.outcome.machine.frames.locals.length :=
    ⟨_, ((((Log.nil.snoc hfirst).snoc hsecond).snoc hthird).snoc hfourth).snoc hfifth, rfl,
      by decide⟩
  rcases hevents with ⟨events, hlog, hlength, hdepth⟩
  rcases definedness_persists p start last events hlog with ⟨hglobal, hlocal, -, hreadable⟩
  have hvalue : start.frames.Holds ⟨.global, "x"⟩ (some (.int 5)) := ⟨_, rfl, rfl⟩
  exact ⟨p, start, last, events, hlog, hlength, rfl, rfl, hdepth, hglobal, hlocal 0 _ rfl hdepth,
    (hreadable "x" _ hvalue).1, rfl⟩

end Machine

end FrameCode
