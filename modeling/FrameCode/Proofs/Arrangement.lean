import FrameCode.Proofs.InternalFaults
import FrameCode.Proofs.OrderComparison
import Mathlib.Order.Bounds.Defs

/-!
# The arrangement of programs

The instructions of a program stand in the sequence of their orders, and the table of labels gives
the first definition of each name.  In a loaded program no order and no label occurs twice, so the
sequence is strict and every label is found where it is defined.

- `Program.DefinesAt`: a label is defined at a position
- `Program.Arranges`: a program arranges some instructions
- `Program.Unambiguous`: orders and labels of a program are told apart
- `Program.ofInstructions_arranges`: every program is an arrangement of its instructions, and a
  loaded one is unambiguous
-/

namespace FrameCode

/-! ## Instructions -/

namespace Instruction

theorem definition?_eq_some_iff {i : Instruction} {name : String} :
    i.definition? = some name ↔ i.opcode = .label ∧ i.operands[0]? = some (.label name) := by
  unfold definition? label?
  rw [List.head?_eq_getElem?]
  by_cases hop : i.opcode = .label
  · rw [if_pos hop]
    rcases i.operands[0]? with _ | v | value | found <;> simp [hop]
  · simp [hop]

theorem Compatible.symm {i j : Instruction} (h : i.Compatible j) : j.Compatible i :=
  ⟨h.1.symm, fun name hi hj => h.2 name hj hi⟩

end Instruction

/-! ## Label tables -/

namespace LabelTable

variable {table : LabelTable} {name : String} {position bound : Nat}

/-- The entries of a table are its names with their positions. -/
theorem mem_entries_iff :
    (name, position) ∈ table.entries ↔ table.position? name = some position := by
  rcases table with ⟨entries, hdistinct⟩
  unfold position?
  induction entries with
  | nil => simp
  | cons entry later ih =>
    rcases List.pairwise_cons.1 hdistinct with ⟨hfirst, hlater⟩
    rw [List.mem_cons, List.lookup_cons]
    by_cases hname : name = entry.1
    · -- No later entry has the name of the first one.
      subst hname
      have habsent : (entry.1, position) ∉ later := fun hmem => hfirst _ hmem rfl
      simp [habsent, Prod.ext_iff, eq_comm]
    · have hbeq : (name == entry.1) = false := beq_eq_false_iff_ne.2 hname
      have hne : (name, position) ≠ entry := fun heq => hname (congrArg Prod.fst heq)
      simp only [hne, hbeq, false_or]
      exact ih hlater

/-- The entries of a table have ascending positions, all of them below a bound. -/
structure Ascending (table : LabelTable) (bound : Nat) : Prop where
  entries : table.entries.Pairwise fun a b => a.2 < b.2
  below : ∀ entry ∈ table.entries, entry.2 < bound

@[simp]
theorem position?_empty (name : String) : empty.position? name = none :=
  rfl

theorem ascending_empty : empty.Ascending bound :=
  ⟨.nil, by simp [empty]⟩

theorem Ascending.mono (h : table.Ascending bound) : table.Ascending (bound + 1) :=
  ⟨h.entries, fun entry hentry => Nat.lt_succ_of_lt (h.below entry hentry)⟩

/-- A name that is entered with a greater position comes last. -/
theorem Ascending.insert (h : table.Ascending bound) (name : String) :
    (table.insert name bound).Ascending (bound + 1) := by
  unfold LabelTable.insert
  split
  next => exact h.mono
  next =>
    refine ⟨List.pairwise_append.2 ⟨h.entries, List.pairwise_singleton .., ?_⟩, ?_⟩
    · intro a ha b hb
      have hnew : b = (name, bound) := List.mem_singleton.1 hb
      rw [hnew]
      exact h.below a ha
    · intro entry hentry
      rcases List.mem_append.1 hentry with hold | hnew
      · exact h.mono.below entry hold
      · have hsame : entry = (name, bound) := List.mem_singleton.1 hnew
        rw [hsame]
        exact Nat.lt_succ_self bound

/-- A table whose positions ascend is already sorted. -/
theorem Ascending.sorted_eq (h : table.Ascending bound) : table.sorted = table.entries := by
  refine List.mergeSort_of_pairwise (h.entries.imp ?_)
  intro a b hlt
  have hposition : compare a.2 b.2 = .lt := Nat.compare_eq_lt.2 hlt
  simp [entryLE, hposition]

end LabelTable

namespace Program

/-! ## Labels of a sequence -/

/-- A table of labels gives the first definition of a name in a sequence, unless the name was there
before. -/
theorem position?_collectLabels (table : LabelTable) (start : Nat) (name : String)
    (instructions : List Instruction) :
    (collectLabels table start instructions).position? name =
      (table.position? name).or
        ((instructions.findIdx? (·.definition? = some name)).map (start + ·)) := by
  induction instructions generalizing table start with
  | nil => simp [collectLabels]
  | cons i later ih =>
    -- Positions behind the first instruction count from one more.
    have hshift : ((later.findIdx? (·.definition? = some name)).map (· + 1)).map (start + ·) =
        (later.findIdx? (·.definition? = some name)).map (start + 1 + ·) := by
      rw [Option.map_map]
      congr 1
      funext k
      exact (Nat.add_right_comm start 1 k).symm
    simp only [collectLabels, List.findIdx?_cons]
    cases hdefinition : i.definition? with
    | none => simp [ih, hshift]
    | some other =>
      by_cases hname : name = other
      · subst hname
        simp [ih, LabelTable.position?_insert]
      · have hother : other ≠ name := Ne.symm hname
        simp [ih, LabelTable.position?_insert, hname, hother, hshift]

theorem ascending_collectLabels {table : LabelTable} {start : Nat} (h : table.Ascending start)
    (instructions : List Instruction) :
    (collectLabels table start instructions).Ascending (start + instructions.length) := by
  induction instructions generalizing table start with
  | nil => exact h
  | cons i later ih =>
    have hlength : start + (i :: later).length = start + 1 + later.length := by
      simp only [List.length_cons]
      omega
    rw [hlength, collectLabels]
    split
    next => exact ih h.mono
    next name _ => exact ih (h.insert name)

/-! ## Sorting -/

theorem le_trans_order (a b c : Instruction) (hab : a.order.le b.order = true)
    (hbc : b.order.le c.order = true) : a.order.le c.order = true :=
  Order.le_iff.2 (Int.le_trans (Order.le_iff.1 hab) (Order.le_iff.1 hbc))

theorem le_total_order (a b : Instruction) :
    (a.order.le b.order || b.order.le a.order) = true := by
  rw [Bool.or_eq_true, Order.le_iff, Order.le_iff]
  exact Int.le_total _ _

theorem sort_perm (instructions : List Instruction) : (sort instructions).Perm instructions :=
  List.mergeSort_perm _ _

theorem sort_ascending (instructions : List Instruction) :
    (sort instructions).Pairwise fun a b => a.order.toInt ≤ b.order.toInt := by
  have hsorted : (sort instructions).Pairwise fun a b => a.order.le b.order = true :=
    List.pairwise_mergeSort le_trans_order le_total_order instructions
  exact hsorted.imp fun hle => Order.le_iff.1 hle

/-- Sorting keeps the sequence of the instructions of one order. -/
theorem filter_sort (instructions : List Instruction) (n : Int) :
    (sort instructions).filter (·.order.toInt = n) = instructions.filter (·.order.toInt = n) := by
  have hequal : (instructions.filter (·.order.toInt = n)).Pairwise
      fun a b => a.order.le b.order = true := by
    refine List.pairwise_of_forall_mem_list ?_
    intro a ha b hb
    have horderA : a.order.toInt = n := by simpa using (List.mem_filter.1 ha).2
    have horderB : b.order.toInt = n := by simpa using (List.mem_filter.1 hb).2
    exact Order.le_iff.2 (Int.le_of_eq (horderA.trans horderB.symm))
  -- They are in sequence already, so they stay a part of the sorted list.
  have hkept : (instructions.filter (·.order.toInt = n)).Sublist (sort instructions) :=
    List.sublist_mergeSort le_trans_order le_total_order hequal List.filter_sublist
  have hpart : (instructions.filter (·.order.toInt = n)).Sublist
      ((sort instructions).filter (·.order.toInt = n)) := by
    have hfiltered := hkept.filter (·.order.toInt = n)
    simpa only [List.filter_filter, Bool.and_self] using hfiltered
  have hlength := ((sort_perm instructions).filter (·.order.toInt = n)).length_eq
  exact (hpart.eq_of_length hlength.symm).symm

/-- Where no order occurs twice, the sequence is strict. -/
theorem sort_strictly_ascending {instructions : List Instruction}
    (h : instructions.Pairwise fun a b => a.order ≠ b.order) :
    (sort instructions).Pairwise fun a b => a.order.toInt < b.order.toInt := by
  have hdistinct : (sort instructions).Pairwise fun a b => a.order ≠ b.order :=
    ((sort_perm instructions).pairwise_iff fun hne => Ne.symm hne).2 h
  refine ((sort_ascending instructions).and hdistinct).imp ?_
  intro a b hab
  rcases hab with ⟨hle, hne⟩
  have hvalue : a.order.toInt ≠ b.order.toInt := fun heq => hne (Order.toInt_injective heq)
  exact Int.lt_iff_le_and_ne.2 ⟨hle, hvalue⟩

/-- Instructions that stand in sequence already stay as they are. -/
theorem ofInstructions_eq_of_ascending {instructions : List Instruction}
    (h : instructions.Pairwise fun a b => a.order.toInt ≤ b.order.toInt) :
    ofInstructions instructions =
      ⟨instructions.toArray, collectLabels .empty 0 instructions⟩ := by
  have hsorted : sort instructions = instructions :=
    List.mergeSort_of_pairwise (h.imp fun hle => Order.le_iff.2 hle)
  unfold ofInstructions
  rw [hsorted]

/-! ## Programs -/

/-- The instruction at a position defines a label. -/
def DefinesAt (p : Program) (name : String) (position : Nat) : Prop :=
  ∃ i, p.instructions[position]? = some i ∧ i.opcode = .label ∧
    i.operands[0]? = some (.label name)

/-- A program arranges some instructions. -/
structure Arranges (p : Program) (instructions : List Instruction) : Prop where
  /-- No instruction is lost, and none is there more often than it was given. -/
  perm : p.instructions.toList.Perm instructions
  ascending : p.instructions.toList.Pairwise fun a b => a.order.toInt ≤ b.order.toInt
  /-- Instructions of one order keep their sequence. -/
  stable : ∀ n : Int, p.instructions.toList.filter (·.order.toInt = n) =
    instructions.filter (·.order.toInt = n)
  labels : ∀ name position, p.labels.position? name = some position ↔
    IsLeast {k | p.DefinesAt name k} position

/-- No two instructions of a program have one order, and no two labels one name. -/
structure Unambiguous (p : Program) : Prop where
  orders : p.instructions.toList.Pairwise fun a b => a.order.toInt < b.order.toInt
  /-- Every definition of a label is recorded at its own position. -/
  recorded : ∀ position i, p.instructions[position]? = some i → i.opcode = .label →
    ∃ name, i.operands[0]? = some (.label name) ∧ p.labels.position? name = some position
  /-- The labels by position are the definitions, one after the other. -/
  listed : ∀ name position, (name, position) ∈ p.labels.sorted ↔ p.DefinesAt name position
  ascending : p.labels.sorted.Pairwise fun a b => a.2 < b.2

theorem definesAt_ofInstructions_iff {instructions : List Instruction} {name : String}
    {position : Nat} :
    (ofInstructions instructions).DefinesAt name position ↔
      ∃ i, (sort instructions)[position]? = some i ∧ i.definition? = some name := by
  simp only [DefinesAt, ofInstructions, List.getElem?_toArray, Instruction.definition?_eq_some_iff]

theorem position?_ofInstructions (instructions : List Instruction) (name : String) :
    (ofInstructions instructions).labels.position? name =
      (sort instructions).findIdx? (·.definition? = some name) := by
  simp [ofInstructions, position?_collectLabels]

theorem position?_ofInstructions_iff {instructions : List Instruction} {name : String}
    {position : Nat} :
    (ofInstructions instructions).labels.position? name = some position ↔
      IsLeast {k | (ofInstructions instructions).DefinesAt name k} position := by
  rw [position?_ofInstructions, List.findIdx?_eq_some_iff_getElem]
  constructor
  · intro h
    rcases h with ⟨hposition, hdefines, hnone⟩
    refine ⟨definesAt_ofInstructions_iff.2
      ⟨_, List.getElem?_eq_getElem hposition, by simpa using hdefines⟩, ?_⟩
    intro k hk
    rcases definesAt_ofInstructions_iff.1 hk with ⟨i, hi, hname⟩
    rcases List.getElem?_eq_some_iff.1 hi with ⟨_, rfl⟩
    -- Before the first position there is no definition.
    exact Nat.le_of_not_lt fun hlt => hnone k hlt (by simpa using hname)
  · intro h
    rcases h with ⟨hdefines, hleast⟩
    rcases definesAt_ofInstructions_iff.1 hdefines with ⟨i, hi, hname⟩
    rcases List.getElem?_eq_some_iff.1 hi with ⟨hposition, rfl⟩
    refine ⟨hposition, by simpa using hname, ?_⟩
    intro k hk hdefined
    have hearlier : (ofInstructions instructions).DefinesAt name k :=
      definesAt_ofInstructions_iff.2
        ⟨_, List.getElem?_eq_getElem (Nat.lt_trans hk hposition), by simpa using hdefined⟩
    exact absurd (hleast hearlier) (Nat.not_le_of_lt hk)

theorem sorted_labels_ofInstructions (instructions : List Instruction) :
    (ofInstructions instructions).labels.sorted = (ofInstructions instructions).labels.entries ∧
      (ofInstructions instructions).labels.sorted.Pairwise fun a b => a.2 < b.2 := by
  have hascending : (ofInstructions instructions).labels.Ascending
      (0 + (sort instructions).length) :=
    ascending_collectLabels LabelTable.ascending_empty (sort instructions)
  have hsorted := hascending.sorted_eq
  exact ⟨hsorted, hsorted ▸ hascending.entries⟩

/-- In a program of compatible instructions a label is defined once. -/
theorem definesAt_unique {instructions : List Instruction}
    (h : instructions.Pairwise Instruction.Compatible) {name : String} {j k : Nat}
    (hj : (ofInstructions instructions).DefinesAt name j)
    (hk : (ofInstructions instructions).DefinesAt name k) : j = k := by
  have hsorted : (sort instructions).Pairwise Instruction.Compatible :=
    ((sort_perm instructions).pairwise_iff fun hab => hab.symm).2 h
  rcases definesAt_ofInstructions_iff.1 hj with ⟨a, ha, hnameA⟩
  rcases definesAt_ofInstructions_iff.1 hk with ⟨b, hb, hnameB⟩
  rcases List.getElem?_eq_some_iff.1 ha with ⟨hja, rfl⟩
  rcases List.getElem?_eq_some_iff.1 hb with ⟨hkb, rfl⟩
  have hpairs := List.pairwise_iff_getElem.1 hsorted
  rcases Nat.lt_trichotomy j k with hlt | heq | hgt
  · exact absurd hnameA ((hpairs j k hja hkb hlt).2 name hnameB)
  · exact heq
  · exact absurd hnameB ((hpairs k j hkb hja hgt).2 name hnameA)

theorem unambiguous_ofInstructions {instructions : List Instruction}
    (hcompatible : instructions.Pairwise Instruction.Compatible)
    (hfits : (ofInstructions instructions).Fits) : (ofInstructions instructions).Unambiguous := by
  have hposition : ∀ name position,
      (ofInstructions instructions).labels.position? name = some position ↔
        (ofInstructions instructions).DefinesAt name position := by
    intro name position
    rw [position?_ofInstructions_iff]
    constructor
    · exact And.left
    · intro hdefines
      exact ⟨hdefines, fun k hk => Nat.le_of_eq (definesAt_unique hcompatible hdefines hk)⟩
  rcases sorted_labels_ofInstructions instructions with ⟨hsorted, hascending⟩
  refine ⟨sort_strictly_ascending (hcompatible.imp And.left), ?_, ?_, hascending⟩
  · intro position i hi hop
    have hsignature : i.opcode.signature[0]? = some .label := by rw [hop]; rfl
    rcases (hfits i (Array.mem_of_getElem? hi)).label hsignature with ⟨name, hname⟩
    exact ⟨name, hname, (hposition name position).2 ⟨i, hi, hop, hname⟩⟩
  · intro name position
    rw [hsorted, LabelTable.mem_entries_iff, hposition]

/-- The program of any instructions arranges them by their orders, with the first definition of each
label in its table; a loaded program is unambiguous as well, however its text has been read. -/
theorem ofInstructions_arranges :
    (∀ instructions, (ofInstructions instructions).Arranges instructions) ∧
      ∀ (parse? : String → Option Markup.Element) text p,
        ofTextBy parse? text = .ok p → p.Unambiguous := by
  constructor
  · intro instructions
    exact ⟨sort_perm instructions, sort_ascending instructions, filter_sort instructions,
      fun _ _ => position?_ofInstructions_iff⟩
  · intro parse? text p hload
    have hfits : p.Fits := fits_of_ofTextBy hload
    rcases ofTextBy_eq_ok_iff.1 hload with ⟨root, -, hroot⟩
    rcases ofElement_eq_ok_iff.1 hroot with ⟨-, instructions, -, hcompatible, rfl⟩
    exact unambiguous_ofInstructions hcompatible hfits

/-- Orders count as integers: ten comes after nine, which as texts it does not. -/
theorem ofInstructions_arranges_labels :
    ∃ p, ofText ("<program language=\"IPPcode18\"><instruction order=\"9\" opcode=\"LABEL\">" ++
        "<arg1 type=\"label\">b</arg1></instruction><instruction order=\"+10\" " ++
        "opcode=\"LABEL\"><arg1 type=\"label\">a</arg1></instruction></program>") = .ok p ∧
      p.Unambiguous ∧ p.labels.sorted = [("b", 0), ("a", 1)] := by
  have hreads : ((Markup.Element.parse?
        ("<program language=\"IPPcode18\"><instruction order=\"9\" opcode=\"LABEL\">" ++
        "<arg1 type=\"label\">b</arg1></instruction><instruction order=\"+10\" " ++
        "opcode=\"LABEL\"><arg1 type=\"label\">a</arg1></instruction></program>")).map fun root =>
          (checkRoot root, Instruction.ofElements [] root.elements)) =
      some (.ok (), .ok [⟨.label, .ofInt 9, [.label "b"]⟩, ⟨.label, .ofInt 10, [.label "a"]⟩]) := by
    decide +kernel
  rcases Option.map_eq_some_iff.1 hreads with ⟨root, hparse, hboth⟩
  rcases Prod.mk.inj hboth with ⟨hroot, hinstructions⟩
  have hprogram : ofElement root = .ok (ofInstructions
      [⟨.label, .ofInt 9, [.label "b"]⟩, ⟨.label, .ofInt 10, [.label "a"]⟩]) := by
    simp only [ofElement, hroot, hinstructions]
    rfl
  have hload := ofTextBy_eq_ok_iff.2 ⟨root, hparse, hprogram⟩
  refine ⟨_, hload, ofInstructions_arranges.2 _ _ _ hload, ?_⟩
  rw [(sorted_labels_ofInstructions _).1, ofInstructions_eq_of_ascending (by decide +kernel)]
  rfl

end Program

end FrameCode
