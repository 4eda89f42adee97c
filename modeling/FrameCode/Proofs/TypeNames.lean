import FrameCode.Proofs.Arrangement
import FrameCode.Proofs.LocalFrames

/-!
# Type names are not data

A value may be the name of a type, and nothing in the machine keeps such a value from being stored.
But a loaded program has type names only where it reads input, to say what a line is to become: no
position that takes a value accepts one, and no instruction computes one.  So neither a variable nor
the data stack ever holds a type name.

- `Value.IsData`: a value that is not the name of a type
- `Frame.HoldsData`, `Frames.HoldData`, `Machine.HoldsData`: everything that is stored is data
- `Instruction.isData_of_effect`: what an instruction assigns is data
- `Machine.Executes.holdsData`: every instruction keeps the machine free of type names
- `Program.reaches_holdsData`: every state of a loaded program is free of them, and the type of an
  operand is one of three, or none
-/

namespace FrameCode

/-! ## Values and frames -/

/-- A value that is not the name of a type. -/
def Value.IsData (value : Value) : Prop :=
  value.tag ≠ .type

namespace Value

theorem isData_int (n : Word) : (int n).IsData :=
  TypeTag.noConfusion

theorem isData_bool (b : Bool) : (bool b).IsData :=
  TypeTag.noConfusion

theorem isData_string (s : String) : (string s).IsData :=
  TypeTag.noConfusion

/-- A line of input becomes data, even where it is read for a type of type names. -/
theorem isData_ofLine (tag : TypeTag) (line : Option String) : (ofLine tag line).IsData := by
  cases tag with
  | int => exact isData_int _
  | bool => exact isData_bool _
  | string => exact isData_string _
  | type => exact isData_string _

end Value

namespace Frame

variable {frame : Frame} {name : String} {content : Option Value}

/-- No slot of a frame holds the name of a type. -/
def HoldsData (frame : Frame) : Prop :=
  ∀ slot ∈ frame.slots, ∀ value, slot.2 = some value → value.IsData

theorem holdsData_empty : empty.HoldsData := by
  intro slot hslot
  cases hslot

theorem HoldsData.put (h : frame.HoldsData)
    (hcontent : ∀ value, content = some value → value.IsData) :
    (frame.put name content).HoldsData := by
  intro slot hslot
  rcases Slot.mem_insert hslot with rfl | hold
  · exact hcontent
  · exact h slot hold

theorem mem_slots_of_slot? (h : frame.slot? name = some content) :
    (name, content) ∈ frame.slots := by
  rcases List.lookup_eq_some_iff.1 h with ⟨before, later, hslots, -⟩
  rw [hslots]
  exact List.mem_append_right before List.mem_cons_self

end Frame

namespace Frames

variable {frames after : Frames} {frame : Frame} {v : Variable} {value : Value}

/-- No variable in any frame holds the name of a type. -/
structure HoldData (frames : Frames) : Prop where
  global : frames.global.HoldsData
  locals : ∀ frame ∈ frames.locals, frame.HoldsData
  temporary : ∀ frame, frames.temporary = some frame → frame.HoldsData

theorem HoldData.frame? {scope : Scope} (h : frames.HoldData)
    (hframe : frames.frame? scope = some frame) : frame.HoldsData := by
  cases scope with
  | global =>
    cases hframe
    exact h.global
  | current => exact h.locals frame (List.mem_of_head? hframe)
  | temporary => exact h.temporary frame hframe

theorem HoldData.setFrame (h : frames.HoldData) (scope : Scope) (hframe : frame.HoldsData) :
    (frames.setFrame scope frame).HoldData := by
  cases scope with
  | global => exact ⟨hframe, h.locals, h.temporary⟩
  | current =>
    refine ⟨h.global, List.forall_mem_cons.2 ⟨hframe, ?_⟩, h.temporary⟩
    intro other hother
    exact h.locals other (List.mem_of_mem_tail hother)
  | temporary =>
    refine ⟨h.global, h.locals, ?_⟩
    intro other hother
    cases hother
    exact hframe

/-- A variable holds nothing but data. -/
theorem HoldData.isData (h : frames.HoldData) (hholds : frames.Holds v (some value)) :
    value.IsData := by
  rcases hholds with ⟨frame, hframe, hslot⟩
  exact h.frame? hframe _ (Frame.mem_slots_of_slot? hslot) value rfl

theorem HoldData.assign (h : frames.HoldData) (hvalue : value.IsData)
    (hassign : frames.assign v value = .ok after) : after.HoldData := by
  rcases assign_eq_ok_iff.1 hassign with ⟨frame, hframe, -, rfl⟩
  refine h.setFrame v.scope ((h.frame? hframe).put ?_)
  intro found hfound
  cases hfound
  exact hvalue

theorem HoldData.declare (h : frames.HoldData) (hdeclare : frames.declare v = .ok after) :
    after.HoldData := by
  rcases declare_eq_ok_iff.1 hdeclare with ⟨frame, hframe, -, rfl⟩
  refine h.setFrame v.scope ((h.frame? hframe).put ?_)
  intro found hfound
  cases hfound

end Frames

/-! ## Instructions -/

/-- An operand at a position that is not for type names stands for data. -/
theorem Operand.Contains.isData {o : Operand} {kind : OperandKind} {frames : Frames} {value : Value}
    (h : o.Contains frames (some value)) (hkind : kind ≠ .type)
    (haccepts : kind.accepts o.argumentType = true) (hframes : frames.HoldData) : value.IsData := by
  cases o with
  | var v => exact hframes.isData h
  | label name => exact h.elim
  | literal found =>
    cases h
    -- Of all kinds, only that of type names accepts a literal that is one.
    cases value with
    | type tag =>
      cases kind with
      | type => exact absurd rfl hkind
      | _ => cases haccepts
    | int n => exact Value.isData_int n
    | bool b => exact Value.isData_bool b
    | string s => exact Value.isData_string s

namespace Instruction

variable {i : Instruction} {labels : LabelTable} {m after : Machine} {v : Variable} {value : Value}
  {k : Nat} {op : Opcode}

theorem HasValue.isData (h : i.HasValue m.frames k value) (hfits : i.Fits) (hop : i.opcode = op)
    (hk : op.signature[k]? = some .symbol) (hframes : m.frames.HoldData) : value.IsData := by
  rcases h with ⟨o, ho, hcontains⟩
  rcases hfits.operand (hop ▸ hk) with ⟨o', ho', haccepts⟩
  have hsame : o' = o := Option.some.inj (ho'.symm.trans ho)
  subst hsame
  exact hcontains.isData OperandKind.noConfusion haccepts hframes

theorem Stores.result {computation : Except Fault Effect} {result : Value → Prop}
    (hstores : i.Stores computation result) (h : computation = .ok (.assign v value)) :
    result value := by
  rcases (hstores _).1 h with ⟨found, hfound, target, -, heffect⟩
  cases heffect
  exact hfound

/-- What an instruction assigns is data: it comes from an operand, or it has been computed. -/
theorem isData_of_effect (h : i.effect labels m = .ok (.assign v value)) (hfits : i.Fits)
    (hframes : m.frames.HoldData) : value.IsData := by
  have hstoring : i.opcode ∈ Opcode.storing := by
    cases effect_performs h with
    | assign _ _ hop _ => exact hop
  unfold effect at h
  cases hop : i.opcode <;> rw [hop] at h hstoring
  case move =>
    rcases move_stores.result h with ⟨moved, hmoved, rfl⟩
    exact hmoved.isData hfits hop rfl hframes
  case add | sub | mul =>
    rcases arithmetic_stores.result h with ⟨_, -, _, -, n, -, rfl⟩
    exact Value.isData_int n
  case floorDiv =>
    rcases division_stores.result h with ⟨_, -, _, -, -, n, -, rfl⟩
    exact Value.isData_int n
  case less | greater =>
    rcases comparison_stores.result h with ⟨_, -, ordering, -, rfl⟩
    exact Value.isData_bool _
  case equal =>
    rcases equality_stores.result h with ⟨_, -, rfl⟩
    exact Value.isData_bool _
  case and | or =>
    rcases connective_stores.result h with ⟨_, -, _, -, rfl⟩
    exact Value.isData_bool _
  case not =>
    rcases negation_stores.result h with ⟨_, -, rfl⟩
    exact Value.isData_bool _
  case charOfInt =>
    rcases charOfInt_stores.result h with ⟨_, -, c, -, rfl⟩
    exact Value.isData_string _
  case intOfChar =>
    rcases intOfChar_stores.result h with ⟨_, -, _, -, c, -, rfl⟩
    exact Value.isData_int _
  case concat =>
    rcases concat_stores.result h with ⟨_, -, _, -, rfl⟩
    exact Value.isData_string _
  case length =>
    rcases length_stores.result h with ⟨_, -, n, -, rfl⟩
    exact Value.isData_int n
  case getChar =>
    rcases getChar_stores.result h with ⟨_, -, _, -, c, -, rfl⟩
    exact Value.isData_string _
  case setChar =>
    rcases setChar_stores.result h with ⟨_, _, _, _, _, -, -, -, -, -, rfl⟩
    exact Value.isData_string _
  case typeOf =>
    rcases typeOf_stores.result h with ⟨_, -, rfl⟩
    exact Value.isData_string _
  -- The other opcodes do not assign.
  all_goals exact absurd hstoring (by decide)

/-- The type of an operand is assigned by its name, and it is not the type of type names. -/
theorem execute_typeOf_done (h : i.execute labels m = .done after) (hop : i.opcode = .typeOf)
    (hfits : i.Fits) (hframes : m.frames.HoldData) :
    ∃ v name, i.operands[0]? = some (.var v) ∧ name ∈ ["", "int", "bool", "string"] ∧
      m.frames.assign v (.string name) = .ok after.frames ∧
      after.frames.Holds v (some (.string name)) := by
  rcases execute_done_effect h with ⟨e, heffect, hplace⟩
  unfold effect at heffect
  rw [hop] at heffect
  rcases (typeOf_stores e).1 heffect with ⟨_, ⟨content, hcontent, rfl⟩, v, hv, rfl⟩
  have hname : content.elim "" (·.tag.name) ∈ ["", "int", "bool", "string"] := by
    cases content with
    | none => exact List.mem_cons_self
    | some value =>
      have hvalue : i.HasValue m.frames 1 value := hcontent
      have hdata : value.IsData := hvalue.isData hfits hop rfl hframes
      cases value with
      | type tag => exact absurd rfl hdata
      | int n | bool b | string s => simp [Value.tag, TypeTag.name]
  cases hplace with
  | assign _ _ frames hassign => exact ⟨v, _, hv, hname, hassign, Frames.holds_of_assign hassign⟩

end Instruction

/-! ## Machines -/

namespace Machine

variable {p : Program} {m after : Machine} {i : Instruction}

/-- Neither a variable nor the data stack holds the name of a type. -/
structure HoldsData (m : Machine) : Prop where
  frames : m.frames.HoldData
  dataStack : ∀ value ∈ m.dataStack, value.IsData

theorem holdsData_initial (input : List UInt8) (output diagnostics : Channel) :
    (initial input output diagnostics).HoldsData where
  frames :=
    { global := Frame.holdsData_empty
      locals := fun _ hframe => nomatch hframe
      temporary := fun _ hframe => nomatch hframe }
  dataStack := fun _ hvalue => nomatch hvalue

theorem HoldsData.fetch (h : m.HoldsData) : m.fetch.HoldsData :=
  ⟨h.frames, h.dataStack⟩

/-- An effect that takes place leaves nothing but data, if what it stores is data. -/
theorem HoldsData.takesPlace {e : Effect} (h : m.HoldsData) (hplace : Effect.TakesPlace m e after)
    (hassign : ∀ v value, e = .assign v value → value.IsData)
    (hpush : ∀ value, e = .push value → value.IsData) : after.HoldsData := by
  cases hplace with
  | assign v value _ hframes => exact ⟨h.frames.assign (hassign v value rfl) hframes, h.dataStack⟩
  | declare _ _ hframes => exact ⟨h.frames.declare hframes, h.dataStack⟩
  | read _ tag text _ _ hframes =>
    exact ⟨h.frames.assign (Value.isData_ofLine tag text) hframes, h.dataStack⟩
  | push value => exact ⟨h.frames, List.forall_mem_cons.2 ⟨hpush value rfl, h.dataStack⟩⟩
  | pop _ value below _ hstack hframes =>
    -- What is popped was on the stack, so it is data.
    have hboth : ∀ found ∈ value :: below, found.IsData := hstack ▸ h.dataStack
    rcases List.forall_mem_cons.1 hboth with ⟨hvalue, hbelow⟩
    exact ⟨h.frames.assign hvalue hframes, hbelow⟩
  | createFrame =>
    refine ⟨⟨h.frames.global, h.frames.locals, ?_⟩, h.dataStack⟩
    intro frame hframe
    cases hframe
    exact Frame.holdsData_empty
  | pushFrame _ hframes =>
    rcases Frames.pushTemporary_eq_ok_iff.1 hframes with ⟨frame, htemporary, rfl⟩
    have hframe : frame.HoldsData := h.frames.temporary frame htemporary
    refine ⟨⟨h.frames.global, List.forall_mem_cons.2 ⟨hframe, h.frames.locals⟩, ?_⟩, h.dataStack⟩
    intro other hother
    cases hother
  | popFrame _ _ hframes =>
    rcases Frames.popLocal_eq_ok_iff.1 hframes with ⟨below, hlocals, rfl⟩
    have hboth : ∀ found ∈ m.frames.locals, found.HoldsData := h.frames.locals
    rw [hlocals] at hboth
    exact ⟨⟨h.frames.global, (List.forall_mem_cons.1 hboth).2, h.frames.temporary⟩, h.dataStack⟩
  | _ => exact ⟨h.frames, h.dataStack⟩

/-- Every instruction whose operands fit keeps the machine free of type names. -/
theorem Executes.holdsData (hp : p.Fits) (h : Executes p m i after) (hm : m.HoldsData) :
    after.HoldsData := by
  have hfits : i.Fits := hp i (Array.mem_of_getElem? h.instruction)
  rcases h with ⟨outcome, hdispatch, rfl⟩
  have hexecute := (dispatch_eq_some_iff.1 hdispatch).2
  cases outcome with
  | failed fault after =>
    have hretains := Instruction.execute_failed_retains hexecute
    exact ⟨hretains.frames ▸ hm.frames, hretains.dataStack ▸ hm.dataStack⟩
  | done after =>
    rcases Instruction.execute_done_effect hexecute with ⟨e, heffect, hplace⟩
    refine hm.fetch.takesPlace hplace ?_ ?_
    · intro v value hassign
      exact Instruction.isData_of_effect (hassign ▸ heffect) hfits hm.fetch.frames
    · intro value hpush
      cases hpush ▸ Instruction.effect_performs heffect with
      | push _ hop hvalue => exact hvalue.isData hfits hop rfl hm.fetch.frames

theorem Step.holdsData (hp : p.Fits) (h : Step p m after) (hm : m.HoldsData) :
    after.HoldsData := by
  rcases h with ⟨i, outcome, hdispatch, hafter⟩
  exact Executes.holdsData hp ⟨outcome, hdispatch, hafter⟩ hm

end Machine

namespace Program

/-- In every state that a loaded program reaches, neither a variable nor the data stack holds the
name of a type.  So the instruction that finds out a type stores one of the names `int`, `bool` and
`string`, or the empty string. -/
theorem reaches_holdsData (parse? : String → Option Markup.Element) (text : String) (p : Program)
    (input : List UInt8) (output diagnostics : Channel) (m : Machine)
    (hload : ofTextBy parse? text = .ok p)
    (hreaches : Machine.Reaches p (.initial input output diagnostics) m) :
    m.HoldsData ∧
      ∀ i after, m.dispatch p = some (i, .done after) → i.opcode = .typeOf →
        ∃ v name, i.operands[0]? = some (.var v) ∧ name ∈ ["", "int", "bool", "string"] ∧
          m.frames.assign v (.string name) = .ok after.frames ∧
          after.frames.Holds v (some (.string name)) := by
  have hp : p.Fits := fits_of_ofTextBy hload
  have hm : m.HoldsData :=
    hreaches.invariant (Machine.Step.holdsData hp)
      (Machine.holdsData_initial input output diagnostics)
  refine ⟨hm, ?_⟩
  intro i after hdispatch hop
  rcases Machine.dispatch_eq_some_iff.1 hdispatch with ⟨hi, hexecute⟩
  have hfits : i.Fits := hp i (Array.mem_of_getElem? hi)
  -- The frames are those before the instruction is fetched, which does not touch them.
  have hstored := Instruction.execute_typeOf_done hexecute hop hfits hm.fetch.frames
  exact hstored

/-- A variable that has just been declared holds no value, and so its type is the empty string. -/
theorem reaches_holdsData_declared :
    ∃ (p : Program) (m after : Machine) (i : Instruction) (v : Variable) (name : String),
      ofText ("<program language=\"IPPcode18\"><instruction order=\"1\" opcode=\"DEFVAR\">" ++
        "<arg1 type=\"var\">GF@x</arg1></instruction><instruction order=\"2\" " ++
        "opcode=\"TYPE\"><arg1 type=\"var\">GF@x</arg1><arg2 type=\"var\">GF@x</arg2>" ++
        "</instruction></program>") = .ok p ∧
      Machine.Reaches p (.initial [] (.ofRoom none) (.ofRoom none)) m ∧
      m.HoldsData ∧ m.dispatch p = some (i, .done after) ∧ i.opcode = .typeOf ∧
      i.operands[0]? = some (.var v) ∧ name ∈ ["", "int", "bool", "string"] ∧
      m.frames.assign v (.string name) = .ok after.frames ∧
      after.frames.Holds v (some (.string name)) ∧
      after.frames.global = Frame.empty.put "x" (some (.string "")) := by
  have hload : ofText
        ("<program language=\"IPPcode18\"><instruction order=\"1\" opcode=\"DEFVAR\">" ++
        "<arg1 type=\"var\">GF@x</arg1></instruction><instruction order=\"2\" " ++
        "opcode=\"TYPE\"><arg1 type=\"var\">GF@x</arg1><arg2 type=\"var\">GF@x</arg2>" ++
        "</instruction></program>") =
      .ok ⟨#[⟨.declare, .ofInt 1, [.var ⟨.global, "x"⟩]⟩,
        ⟨.typeOf, .ofInt 2, [.var ⟨.global, "x"⟩, .var ⟨.global, "x"⟩]⟩], .empty⟩ := by
    rw [ofText_eq_ok_of_reads
        [⟨.declare, .ofInt 1, [.var ⟨.global, "x"⟩]⟩,
          ⟨.typeOf, .ofInt 2, [.var ⟨.global, "x"⟩, .var ⟨.global, "x"⟩]⟩] (by decide +kernel),
      ofInstructions_eq_of_ascending (by decide +kernel)]
    rfl
  let p : Program :=
    ⟨#[⟨.declare, .ofInt 1, [.var ⟨.global, "x"⟩]⟩,
      ⟨.typeOf, .ofInt 2, [.var ⟨.global, "x"⟩, .var ⟨.global, "x"⟩]⟩], .empty⟩
  let start : Machine := .initial [] (.ofRoom none) (.ofRoom none)
  let declared : Machine :=
    { start with frames := ⟨Frame.empty.put "x" none, [], none⟩, pc := 1, executed := 1 }
  have hdeclare : start.dispatch p = some (_, .done declared) := rfl
  have htypeOf : declared.dispatch p = some (⟨.typeOf, _, _⟩, .done _) := rfl
  have hreaches : Machine.Reaches p start declared := .of_dispatch hdeclare
  rcases reaches_holdsData _ _ p _ _ _ declared hload hreaches with ⟨hdata, htype⟩
  rcases htype _ _ htypeOf rfl with ⟨v, name, hv, hname, hassign, hholds⟩
  exact ⟨p, declared, _, _, v, name, hload, hreaches, hdata, htypeOf, rfl, hv, hname, hassign,
    hholds, rfl⟩

end Program

end FrameCode
