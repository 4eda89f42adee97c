import FrameCode.Program.Document
import FrameCode.Proofs.LexicalGrammar
import Mathlib.Data.List.Perm.Subperm

/-!
# The grammar of documents

Which trees are programs, stated on the tree alone: no sequence of checks, and no sets of what has
come before.  The arguments of an instruction may stand in any sequence, and nothing but their names
tells them apart; a program is accepted exactly if its tree is in the grammar.

- `Instruction.IsInstruction`: an element is an instruction by itself
- `Program.IsDocument`: a root element is a program
- `Instruction.Spells`: an element is written as a given instruction
- `Program.ofText_accepts_iff`: a document is accepted exactly if it is in the grammar, and then its
  elements and the instructions of the program correspond to each other
-/

namespace FrameCode

open Markup (Attribute Element)

/-! ## The grammar -/

namespace Instruction

/-- An element is an argument for an operand position and stands for an operand. -/
def ReadsArgument (kind : OperandKind) (argument : Element) (o : Operand) : Prop :=
  ∃ given : ArgumentType, argument.attributes = [⟨none, "type", given.name⟩] ∧
    kind.accepts given = true ∧ Operand.Spelled given argument.text o

/-- The names of the arguments of an opcode. -/
def argumentNames (op : Opcode) : List String :=
  (List.range op.arity).map fun k => argumentName (k + 1)

/-- An element has the arguments of an opcode, each once and nothing else, and each is an argument
for its position. -/
def TakesArguments (op : Opcode) (e : Element) : Prop :=
  (e.elements.map Element.name).Perm (argumentNames op) ∧
    ∀ k kind, op.signature[k]? = some kind → ∀ argument ∈ e.elements,
      argument.name = argumentName (k + 1) → ∃ o, ReadsArgument kind argument o

/-- An element is an instruction by itself. -/
def IsInstruction (e : Element) : Prop :=
  e.name = "instruction" ∧ ∃ (order : String) (op : Opcode) (n : Int),
    e.attributes.Perm [⟨none, "order", order⟩, ⟨none, "opcode", op.mnemonic⟩] ∧
    Numeral.Denotes (Text.trim order).toList n ∧ TakesArguments op e

/-- The order of an element, as an integer. -/
def HasOrder (e : Element) (n : Int) : Prop :=
  ∃ text, e.attribute? "order" = some text ∧ Numeral.Denotes (Text.trim text).toList n

/-- An element defines a label. -/
def DefinesLabel (e : Element) (name : String) : Prop :=
  e.attribute? "opcode" = some Opcode.label.mnemonic ∧
    ∃ argument ∈ e.elements, argument.name = argumentName 1 ∧ argument.text = name

/-- An element is written as a given instruction: it has its order and its opcode, and the arguments
by their numbers are its operands. -/
structure Spells (e : Element) (i : Instruction) : Prop where
  order : HasOrder e i.order.toInt
  opcode : e.attribute? "opcode" = some i.opcode.mnemonic
  length : i.operands.length = e.elements.length
  operands : ∀ k o, i.operands[k]? = some o → ∃ argument ∈ e.elements,
    argument.name = argumentName (k + 1) ∧ ∃ given : ArgumentType,
      argument.attribute? "type" = some given.name ∧ Operand.Spelled given argument.text o

end Instruction

namespace Program

/-- A root element is a program. -/
structure IsDocument (root : Element) : Prop where
  name : root.name = "program"
  language : root.attribute? "language" = some language
  instructions : ∀ e ∈ root.elements, Instruction.IsInstruction e
  orders : root.elements.Pairwise fun a b =>
    ∀ n, Instruction.HasOrder a n → ¬ Instruction.HasOrder b n
  labels : root.elements.Pairwise fun a b =>
    ∀ name, Instruction.DefinesLabel a name → ¬ Instruction.DefinesLabel b name

end Program

/-! ## Lists -/

section Lists

variable {α β ε : Type} {R : α → β → Prop}

/-- As many as there are names, and every name among them: so every name once. -/
theorem perm_of_subset_of_length {expected found : List α} (hnodup : expected.Nodup)
    (hsubset : expected ⊆ found) (hlength : found.length = expected.length) :
    found.Perm expected :=
  ((List.subperm_of_subset hnodup hsubset).perm_of_length_le (Nat.le_of_eq hlength)).symm

theorem exists_forall₂_iff {as : List α} :
    (∃ bs, List.Forall₂ R as bs) ↔ ∀ a ∈ as, ∃ b, R a b := by
  induction as with
  | nil => simp
  | cons a as ih =>
    simp only [List.forall₂_cons_left_iff, List.forall_mem_cons, ← ih]
    constructor
    · intro h
      rcases h with ⟨_, b, bs, hb, hbs, rfl⟩
      exact ⟨⟨b, hb⟩, bs, hbs⟩
    · intro h
      rcases h with ⟨⟨b, hb⟩, bs, hbs⟩
      exact ⟨_, b, bs, hb, hbs, rfl⟩

/-- A relation between the members of one list is one between those of a list that matches it. -/
theorem pairwise_iff_of_forall₂ {P : α → α → Prop} {Q : β → β → Prop} {as : List α} {bs : List β}
    (h : List.Forall₂ R as bs) (hPQ : ∀ a a' b b', R a b → R a' b' → (P a a' ↔ Q b b')) :
    as.Pairwise P ↔ bs.Pairwise Q := by
  induction h with
  | nil => simp
  | @cons a b as bs hfirst hrest ih =>
    -- The first members, against all the later ones.
    have hall : (∀ a' ∈ as, P a a') ↔ ∀ b' ∈ bs, Q b b' := by
      clear ih
      induction hrest with
      | nil => simp
      | cons hfirst' _ ih => simp only [List.forall_mem_cons, ih, hPQ _ _ _ _ hfirst hfirst']
    rw [List.pairwise_cons, List.pairwise_cons, ih, hall]

end Lists

/-! ## Attributes -/

namespace Markup.Element

variable {e : Element} {name value : String}

theorem mem_of_attribute? (h : e.attribute? name = some value) :
    ⟨none, name, value⟩ ∈ e.attributes := by
  simp only [attribute?, Option.map_eq_some_iff] at h
  rcases h with ⟨⟨space, name', value'⟩, hfind, rfl⟩
  have hfound := List.find?_some hfind
  simp only [Bool.and_eq_true, decide_eq_true_eq] at hfound
  rcases hfound with ⟨rfl, rfl⟩
  exact List.mem_of_find?_eq_some hfind

/-- An attribute is found if no other attribute has its name. -/
theorem attribute?_eq_some (hmem : ⟨none, name, value⟩ ∈ e.attributes)
    (hunique : ∀ a ∈ e.attributes, a.name = name → a.value = value) :
    e.attribute? name = some value := by
  have hsome : (e.attributes.find? fun a => a.space = none && a.name = name).isSome = true :=
    List.find?_isSome.2 ⟨_, hmem, by simp⟩
  rcases Option.isSome_iff_exists.1 hsome with ⟨a, ha⟩
  have hname : a.name = name := by
    have hfound := List.find?_some ha
    simp only [Bool.and_eq_true, decide_eq_true_eq] at hfound
    exact hfound.2
  simp only [attribute?, ha, Option.map_some, hunique a (List.mem_of_find?_eq_some ha) hname]

theorem attributes_eq_singleton_iff :
    e.attributes = [⟨none, name, value⟩] ↔
      e.attributes.length = 1 ∧ e.attribute? name = some value := by
  constructor
  · intro h
    exact ⟨by simp [h], attribute?_eq_some (by simp [h]) (by simp [h])⟩
  · intro h
    rcases h with ⟨hlength, hvalue⟩
    rcases List.length_eq_one_iff.1 hlength with ⟨a, ha⟩
    have hmem := mem_of_attribute? hvalue
    rw [ha, List.mem_singleton] at hmem
    rw [ha, hmem]

theorem attributes_perm_pair_iff {other value' : String} (hne : name ≠ other) :
    e.attributes.Perm [⟨none, name, value⟩, ⟨none, other, value'⟩] ↔
      e.attributes.length = 2 ∧ e.attribute? name = some value ∧
        e.attribute? other = some value' := by
  constructor
  · intro h
    have hmem : ∀ a, a ∈ e.attributes ↔ a = ⟨none, name, value⟩ ∨ a = ⟨none, other, value'⟩ := by
      intro a
      rw [h.mem_iff]
      simp
    refine ⟨h.length_eq, attribute?_eq_some ((hmem _).2 (.inl rfl)) ?_,
      attribute?_eq_some ((hmem _).2 (.inr rfl)) ?_⟩
    · intro a ha hname
      rcases (hmem a).1 ha with rfl | rfl
      · rfl
      · exact absurd hname.symm hne
    · intro a ha hname
      rcases (hmem a).1 ha with rfl | rfl
      · exact absurd hname hne
      · rfl
  · intro h
    rcases h with ⟨hlength, hvalue, hvalue'⟩
    -- Two attributes with different names are found, and there are no more than two.
    refine perm_of_subset_of_length (by simp [hne]) ?_ hlength
    simp [mem_of_attribute? hvalue, mem_of_attribute? hvalue']

end Markup.Element

/-! ## Arguments -/

namespace Instruction

theorem argumentName_injective {a b : Nat} (h : argumentName a = argumentName b) : a = b := by
  have hdigits : Nat.toDigits 10 a = Nat.toDigits 10 b := by
    have hlist := congrArg String.toList h
    simpa [argumentName, Nat.toString_eq_ofList_toDigits] using hlist
  have hnumber := congrArg Numeral.magnitude hdigits
  simpa [Numeral.magnitude] using hnumber

theorem nodup_argumentNames (op : Opcode) : (argumentNames op).Nodup := by
  refine List.nodup_range.map ?_
  intro a b h
  exact Nat.succ.inj (argumentName_injective h)

theorem length_argumentNames (op : Opcode) : (argumentNames op).length = op.arity := by
  simp [argumentNames]

/-- The positions of an opcode, counted from one. -/
theorem mem_positions_iff {op : Opcode} {kind : OperandKind} {k : Nat} :
    (kind, k + 1) ∈ op.signature.zipIdx 1 ↔ op.signature[k]? = some kind := by
  rw [List.mk_mem_zipIdx_iff_le_and_getElem?_sub]
  simp

theorem exists_eq_succ_of_mem_positions {op : Opcode} {kind : OperandKind} {index : Nat}
    (h : (kind, index) ∈ op.signature.zipIdx 1) : ∃ k, index = k + 1 := by
  have hle : 1 ≤ index := (List.mk_mem_zipIdx_iff_le_and_getElem?_sub.1 h).1
  exact ⟨index - 1, by omega⟩

theorem exists_mem_positions {op : Opcode} {k : Nat} (hk : k < op.arity) :
    ∃ kind, (kind, k + 1) ∈ op.signature.zipIdx 1 :=
  ⟨_, mem_positions_iff.2 (List.getElem?_eq_getElem hk)⟩

theorem argumentTypeOf_eq_ok_iff {site : String} {op : Opcode} {index : Nat} {kind : OperandKind}
    {argument : Element} {given : ArgumentType} :
    argumentTypeOf site op index kind argument = .ok given ↔
      argument.attributes = [⟨none, "type", given.name⟩] ∧ kind.accepts given = true := by
  rw [Markup.Element.attributes_eq_singleton_iff]
  unfold argumentTypeOf
  constructor
  · intro h
    split at h
    next => cases h
    next hlength =>
      split at h
      next => cases h
      next name hname =>
        split at h
        next => cases h
        next found hfound =>
          cases h
          rcases Option.filter_eq_some_iff.1 hfound with ⟨hgiven, haccepts⟩
          rw [ArgumentType.ofName?_eq_some_iff.1 hgiven]
          exact ⟨⟨not_not.1 hlength, hname⟩, haccepts⟩
  · intro h
    rcases h with ⟨⟨hlength, hname⟩, haccepts⟩
    have hfound : (ArgumentType.ofName? given.name).filter kind.accepts = some given := by
      rw [ArgumentType.ofName?_eq_some_iff.2 rfl]
      simp [Option.filter, haccepts]
    simp [hlength, hname, hfound]

theorem mem_of_argumentOf {site : String} {e argument : Element} {index : Nat}
    (h : argumentOf site e index = .ok argument) : argument ∈ e.elements := by
  unfold argumentOf at h
  split at h
  next => cases h
  next hfind =>
    cases h
    exact List.mem_of_find?_eq_some hfind

theorem operandOf_eq_ok_iff {site : String} {op : Opcode} {e : Element} {kind : OperandKind}
    {index : Nat} {o : Operand} :
    operandOf site op e kind index = .ok o ↔
      ∃ argument, e.elements.find? (·.name = argumentName index) = some argument ∧
        ReadsArgument kind argument o := by
  simp only [operandOf, argumentOf, bind_eq_ok_iff, argumentTypeOf_eq_ok_iff, ReadsArgument,
    ← Operand.parse_eq_ok_iff]
  constructor
  · intro h
    rcases h with ⟨argument, hargument, given, ⟨hattributes, haccepts⟩, hparse⟩
    split at hargument
    next => cases hargument
    next hfind =>
      cases hargument
      split at hparse
      next => cases hparse
      next hoperand =>
        cases hparse
        exact ⟨argument, hfind, given, hattributes, haccepts, hoperand⟩
  · intro h
    rcases h with ⟨argument, hfind, given, hattributes, haccepts, hparse⟩
    exact ⟨argument, by simp [hfind], given, ⟨hattributes, haccepts⟩, by simp [hparse]⟩

/-- Where no name is repeated, an argument is found exactly if it is there. -/
theorem find?_argument_eq_some_iff {e : Element} (hnodup : (e.elements.map Element.name).Nodup)
    {index : Nat} {argument : Element} :
    e.elements.find? (·.name = argumentName index) = some argument ↔
      argument ∈ e.elements ∧ argument.name = argumentName index := by
  simpa only [beq_eq_decide] using find?_name_eq_some_iff hnodup

/-- An element has the arguments of an opcode, and they stand for some operands. -/
def ReadsArguments (op : Opcode) (e : Element) (operands : List Operand) : Prop :=
  (e.elements.map Element.name).Perm (argumentNames op) ∧
    List.Forall₂ (fun p o => ∃ argument ∈ e.elements, argument.name = argumentName p.2 ∧
      ReadsArgument p.1 argument o) (op.signature.zipIdx 1) operands

theorem ReadsArguments.nodup {op : Opcode} {e : Element} {operands : List Operand}
    (h : ReadsArguments op e operands) : (e.elements.map Element.name).Nodup :=
  h.1.nodup_iff.2 (nodup_argumentNames op)

/-- Every argument that is looked up is found, and there are no more of them: so each is there
once. -/
theorem operandsOf_eq_ok_iff {site : String} {op : Opcode} {e : Element}
    {operands : List Operand} :
    operandsOf site op e = .ok operands ↔ ReadsArguments op e operands := by
  unfold operandsOf
  constructor
  · intro h
    split at h
    next => cases h
    next hcount =>
      have hfound := mapM_eq_ok_iff.1 h
      simp only [operandOf_eq_ok_iff] at hfound
      have hlength : (e.elements.map Element.name).length = (argumentNames op).length := by
        simpa [length_argumentNames] using hcount
      -- The names are told apart by counting: each of them is found, and there are as many
      -- elements.
      refine ⟨perm_of_subset_of_length (nodup_argumentNames op) ?_ hlength, ?_⟩
      · intro name hname
        simp only [argumentNames, List.mem_map, List.mem_range] at hname
        rcases hname with ⟨k, hk, rfl⟩
        rcases exists_mem_positions hk with ⟨kind, hkind⟩
        rcases exists_forall₂_iff.1 ⟨_, hfound⟩ _ hkind with ⟨o, argument, hargument, -⟩
        have hargumentName := List.find?_some hargument
        have hmem := List.mem_of_find?_eq_some hargument
        exact List.mem_map.2 ⟨argument, hmem, by simpa using hargumentName⟩
      · refine hfound.imp ?_
        intro p o hoperand
        rcases hoperand with ⟨argument, hargument, hreads⟩
        have hargumentName := List.find?_some hargument
        exact ⟨argument, List.mem_of_find?_eq_some hargument, by simpa using hargumentName, hreads⟩
  · intro h
    have hcount : e.elements.length = op.arity := by
      have hlength := h.1.length_eq
      simpa [length_argumentNames] using hlength
    rw [if_neg (not_not.2 hcount), mapM_eq_ok_iff]
    refine h.2.imp ?_
    intro p o hoperand
    rcases hoperand with ⟨argument, hmem, hname, hreads⟩
    -- No name is repeated, so the first element of a name is the only one.
    have hfind := (find?_argument_eq_some_iff h.nodup).2 ⟨hmem, hname⟩
    exact operandOf_eq_ok_iff.2 ⟨argument, hfind, hreads⟩

/-! ## Instructions -/

/-- An element is read as an instruction. -/
structure Reads (e : Element) (i : Instruction) : Prop where
  name : e.name = "instruction"
  attributes : e.attributes.length = 2
  order : HasOrder e i.order.toInt
  opcode : e.attribute? "opcode" = some i.opcode.mnemonic
  arguments : ReadsArguments i.opcode e i.operands

/-- Two instructions may stand in one program, the first before the second. -/
def Compatible (a b : Instruction) : Prop :=
  a.order ≠ b.order ∧ ∀ name, b.definition? = some name → a.definition? ≠ some name

variable {earlier : List Instruction} {site : String} {e : Element} {i : Instruction}

theorem orderOf_eq_ok_iff {order : Order} :
    orderOf earlier site e = .ok order ↔
      HasOrder e order.toInt ∧ ∀ j ∈ earlier, j.order ≠ order := by
  unfold orderOf HasOrder
  constructor
  · intro h
    split at h
    next => cases h
    next text htext =>
      split at h
      next => cases h
      next found hfound =>
        split at h
        next => cases h
        next hfresh =>
          cases h
          refine ⟨⟨text, htext, Order.parse_eq_ok_iff.1 hfound⟩, ?_⟩
          simpa using hfresh
  · intro h
    rcases h with ⟨⟨text, htext, hnumeral⟩, hfresh⟩
    have hparse := Order.parse_eq_ok_iff.2 hnumeral
    have hany : earlier.any (·.order = order) = false := by simpa using hfresh
    simp [htext, hparse, hany]

theorem opcodeOf_eq_ok_iff {op : Opcode} :
    opcodeOf site e = .ok op ↔ e.attribute? "opcode" = some op.mnemonic := by
  unfold opcodeOf
  constructor
  · intro h
    split at h
    next => cases h
    next name hname =>
      split at h
      next => cases h
      next found hfound =>
        cases h
        rw [hname, Opcode.ofMnemonic?_eq_some_iff.1 hfound]
  · intro h
    have hfound : Opcode.ofMnemonic? op.mnemonic = some op := Opcode.ofMnemonic?_eq_some_iff.2 rfl
    simp [h, hfound]

theorem checkLabel_eq_ok_iff :
    checkLabel earlier site i = .ok () ↔
      ∀ name, i.definition? = some name → ∀ j ∈ earlier, j.definition? ≠ some name := by
  unfold checkLabel
  cases i.definition? with
  | none => simp
  | some name => simp

/-- An element is accepted exactly if it is an instruction and goes with those before it. -/
theorem ofElement_eq_ok_iff :
    ofElement earlier e = .ok i ↔ Reads e i ∧ ∀ j ∈ earlier, j.Compatible i := by
  unfold ofElement
  constructor
  · intro h
    split at h
    next => cases h
    next hname =>
      split at h
      next => cases h
      next hattributes =>
        simp only [bind_eq_ok_iff, pure_eq_ok_iff, orderOf_eq_ok_iff, opcodeOf_eq_ok_iff,
          operandsOf_eq_ok_iff] at h
        rcases h with ⟨order, ⟨horder, hfresh⟩, op, hop, operands, hoperands, _, hlabel, rfl⟩
        have hdistinct := checkLabel_eq_ok_iff.1 hlabel
        refine ⟨⟨not_not.1 hname, not_not.1 hattributes, horder, hop, hoperands⟩, ?_⟩
        intro j hj
        exact ⟨hfresh j hj, fun name hdefinition => hdistinct name hdefinition j hj⟩
  · intro h
    rcases h with ⟨⟨hname, hattributes, horder, hop, hoperands⟩, hcompatible⟩
    rw [if_neg (not_not.2 hname), if_neg (not_not.2 hattributes)]
    simp only [bind_eq_ok_iff, pure_eq_ok_iff, orderOf_eq_ok_iff, opcodeOf_eq_ok_iff,
      operandsOf_eq_ok_iff]
    have hlabel : checkLabel earlier (siteOf (earlier.length + 1) e) i = .ok () := by
      refine checkLabel_eq_ok_iff.2 ?_
      intro name hdefinition j hj
      exact (hcompatible j hj).2 name hdefinition
    exact ⟨i.order, ⟨horder, fun j hj => (hcompatible j hj).1⟩, i.opcode, hop, i.operands,
      hoperands, (), hlabel, rfl⟩

/-- The elements are accepted exactly if each is an instruction and no two of them get into each
other's way, whatever the sequence of the checks. -/
theorem ofElements_eq_ok_iff {elements : List Element} {result : List Instruction} :
    ofElements earlier elements = .ok result ↔
      ∃ instructions, result = earlier.reverse ++ instructions ∧
        List.Forall₂ Reads elements instructions ∧ instructions.Pairwise Compatible ∧
        ∀ j ∈ earlier, ∀ i ∈ instructions, j.Compatible i := by
  -- The instructions that have been read grow from element to element.
  induction elements generalizing earlier with
  | nil => simp [ofElements, eq_comm]
  | cons e later ih =>
    simp only [ofElements, bind_eq_ok_iff, ofElement_eq_ok_iff, ih, List.forall₂_cons_left_iff]
    constructor
    · intro h
      rcases h with ⟨i, ⟨hreads, hbefore⟩, rest, rfl, hrest, hpairwise, hcompatible⟩
      rw [List.forall_mem_cons] at hcompatible
      refine ⟨i :: rest, by simp, ⟨i, rest, hreads, hrest, rfl⟩,
        List.pairwise_cons.2 ⟨hcompatible.1, hpairwise⟩, ?_⟩
      intro j hj
      exact List.forall_mem_cons.2 ⟨hbefore j hj, hcompatible.2 j hj⟩
    · intro h
      rcases h with ⟨_, rfl, ⟨i, rest, hreads, hrest, rfl⟩, hpairwise, hcompatible⟩
      rcases List.pairwise_cons.1 hpairwise with ⟨hfirst, hpairwise⟩
      refine ⟨i, ⟨hreads, fun j hj => hcompatible j hj i (by simp)⟩, rest, by simp, hrest,
        hpairwise, ?_⟩
      exact List.forall_mem_cons.2 ⟨hfirst, fun j hj k hk => hcompatible j hj k (by simp [hk])⟩

/-! ## What an accepted element says -/

theorem HasOrder.unique {a b : Int} (ha : HasOrder e a) (hb : HasOrder e b) : a = b := by
  rcases ha with ⟨text, htext, ha⟩
  rcases hb with ⟨text', htext', hb⟩
  have hsame : text = text' := Option.some.inj (htext.symm.trans htext')
  subst hsame
  exact ha.unique hb

theorem ReadsArguments.argument_unique {op : Opcode} {operands : List Operand}
    (h : ReadsArguments op e operands) {a b : Element} (ha : a ∈ e.elements) (hb : b ∈ e.elements)
    (hname : a.name = b.name) : a = b :=
  List.inj_on_of_nodup_map h.nodup ha hb hname

theorem ReadsArguments.exists_argument {op : Opcode} {operands : List Operand}
    (h : ReadsArguments op e operands) {k : Nat} {kind : OperandKind}
    (hk : op.signature[k]? = some kind) :
    ∃ argument ∈ e.elements, argument.name = argumentName (k + 1) ∧
      ∃ o, operands[k]? = some o ∧ ReadsArgument kind argument o := by
  have hposition : (op.signature.zipIdx 1)[k]? = some (kind, k + 1) := by
    simp [List.getElem?_zipIdx, hk, Nat.add_comm]
  rcases exists_getElem?_of_forall₂ h.2 hposition with ⟨o, ho, argument, hmem, hname, hreads⟩
  exact ⟨argument, hmem, hname, o, ho, hreads⟩

theorem TakesArguments.exists_operands {op : Opcode} (h : TakesArguments op e) :
    ∃ operands, ReadsArguments op e operands := by
  have hevery : ∀ p ∈ op.signature.zipIdx 1, ∃ o, ∃ argument ∈ e.elements,
      argument.name = argumentName p.2 ∧ ReadsArgument p.1 argument o := by
    intro p hp
    rcases p with ⟨kind, index⟩
    rcases exists_eq_succ_of_mem_positions hp with ⟨k, rfl⟩
    have hk := mem_positions_iff.1 hp
    have hname : argumentName (k + 1) ∈ e.elements.map Element.name := by
      rw [h.1.mem_iff]
      exact List.mem_map.2 ⟨k, List.mem_range.2 (List.getElem?_eq_some_iff.1 hk).1, rfl⟩
    rcases List.mem_map.1 hname with ⟨argument, hmem, hname⟩
    rcases h.2 k kind hk argument hmem hname with ⟨o, hreads⟩
    exact ⟨o, argument, hmem, hname, hreads⟩
  rcases exists_forall₂_iff.2 hevery with ⟨operands, hoperands⟩
  exact ⟨operands, h.1, hoperands⟩

/-- An element is an instruction exactly if it is read as one. -/
theorem isInstruction_iff : IsInstruction e ↔ ∃ i, Reads e i := by
  have hnames : "order" ≠ "opcode" := by decide
  constructor
  · intro h
    rcases h with ⟨hname, text, op, n, hattributes, hnumeral, harguments⟩
    rcases (Markup.Element.attributes_perm_pair_iff hnames).1 hattributes with
      ⟨hlength, horder, hop⟩
    rcases Order.exists_toInt_eq hnumeral with ⟨order, rfl⟩
    rcases harguments.exists_operands with ⟨operands, hoperands⟩
    exact ⟨⟨op, order, operands⟩, hname, hlength, ⟨text, horder, hnumeral⟩, hop, hoperands⟩
  · intro h
    rcases h with ⟨i, hname, hlength, ⟨text, htext, hnumeral⟩, hop, harguments⟩
    refine ⟨hname, text, i.opcode, i.order.toInt,
      (Markup.Element.attributes_perm_pair_iff hnames).2 ⟨hlength, htext, hop⟩, hnumeral,
      harguments.1, ?_⟩
    intro k kind hk argument hmem hname
    rcases harguments.exists_argument hk with ⟨argument', hmem', hname', o, -, hreads⟩
    -- Only one element has this name, so it is the one that has been read.
    have hsame : argument = argument' :=
      harguments.argument_unique hmem hmem' (hname.trans hname'.symm)
    exact ⟨o, hsame ▸ hreads⟩

theorem Reads.spells (h : Reads e i) : Spells e i where
  order := h.order
  opcode := h.opcode
  length := by
    have hnames := h.arguments.1.length_eq
    have hoperands := h.arguments.2.length_eq
    simp only [List.length_map, length_argumentNames, List.length_zipIdx] at hnames hoperands
    exact hoperands.symm.trans hnames.symm
  operands := by
    intro k o ho
    rcases exists_getElem?_of_forall₂ h.arguments.2.flip ho with
      ⟨p, hp, argument, hmem, hname, hreads⟩
    have hindex : p.2 = k + 1 := by
      rw [List.getElem?_zipIdx] at hp
      rcases Option.map_eq_some_iff.1 hp with ⟨kind, -, rfl⟩
      exact Nat.add_comm 1 k
    rcases hreads with ⟨given, hattributes, -, hspelled⟩
    rw [hindex] at hname
    have htype := (Markup.Element.attributes_eq_singleton_iff.1 hattributes).2
    exact ⟨argument, hmem, hname, given, htype, hspelled⟩

/-- The operands of an accepted instruction fit its opcode. -/
theorem Reads.fits (h : Reads e i) : i.Fits := by
  have hpositions : List.Forall₂ (fun (p : OperandKind × Nat) o =>
      p.1.accepts (Operand.argumentType o) = true) (i.opcode.signature.zipIdx 1) i.operands := by
    refine h.arguments.2.imp ?_
    intro p o hp
    rcases hp with ⟨argument, -, -, given, -, haccepts, hspelled⟩
    rwa [hspelled.argumentType]
  have hkinds : List.Forall₂ (fun kind o => kind.accepts (Operand.argumentType o) = true)
      ((i.opcode.signature.zipIdx 1).map Prod.fst) i.operands :=
    List.forall₂_map_left_iff.2 hpositions
  rwa [List.zipIdx_map_fst] at hkinds

/-- The label that an instruction defines is the one that its element defines. -/
theorem Reads.definesLabel_iff (h : Reads e i) {name : String} :
    DefinesLabel e name ↔ i.definition? = some name := by
  have hop : e.attribute? "opcode" = some Opcode.label.mnemonic ↔ i.opcode = .label := by
    rw [h.opcode, Option.some_inj]
    exact Opcode.mnemonic_inj
  unfold DefinesLabel definition?
  rw [hop]
  by_cases hlabel : i.opcode = .label
  · simp only [hlabel, true_and, if_true]
    have hfirst : i.opcode.signature[0]? = some .label := by rw [hlabel]; rfl
    rcases h.arguments.exists_argument hfirst with ⟨argument, hmem, hname, o, ho, hreads⟩
    -- A position of labels accepts nothing but labels, whose text is their name.
    have hoperand : o = .label argument.text := by
      rcases hreads with ⟨given, -, haccepts, hspelled⟩
      have hgiven : given = .label := by
        simpa [OperandKind.accepts, OperandKind.accepted] using haccepts
      subst hgiven
      exact hspelled.eq_label
    have hdefined : i.label? = some argument.text := by
      simp [label?, List.head?_eq_getElem?, ho, hoperand]
    rw [hdefined, Option.some_inj]
    constructor
    · intro hargument
      rcases hargument with ⟨argument', hmem', hname', rfl⟩
      rw [h.arguments.argument_unique hmem hmem' (hname.trans hname'.symm)]
    · intro htext
      exact ⟨argument, hmem, hname, htext⟩
  · simp [hlabel]

/-- Instructions go together exactly if their elements do. -/
theorem Reads.compatible_iff {a b : Element} {i j : Instruction} (ha : Reads a i) (hb : Reads b j) :
    ((∀ n, HasOrder a n → ¬ HasOrder b n) ∧ ∀ name, DefinesLabel a name → ¬ DefinesLabel b name) ↔
      i.Compatible j := by
  have horders : (∀ n, HasOrder a n → ¬ HasOrder b n) ↔ i.order ≠ j.order := by
    constructor
    · intro h hsame
      exact h _ ha.order (hsame ▸ hb.order)
    · intro h n hn hn'
      exact h (Order.toInt_injective ((ha.order.unique hn).trans (hn'.unique hb.order)))
  have hlabels : (∀ name, DefinesLabel a name → ¬ DefinesLabel b name) ↔
      ∀ name, j.definition? = some name → i.definition? ≠ some name := by
    refine forall_congr' fun name => ?_
    rw [ha.definesLabel_iff, hb.definesLabel_iff]
    exact imp_not_comm
  rw [horders, hlabels]
  exact Iff.rfl

end Instruction

/-! ## Programs -/

namespace Program

variable {root : Element} {p : Program}

theorem checkRoot_eq_ok_iff :
    checkRoot root = .ok () ↔
      root.name = "program" ∧ root.attribute? "language" = some language := by
  unfold checkRoot
  constructor
  · intro h
    split at h
    next => cases h
    next hname =>
      split at h
      next => cases h
      next found hfound =>
        split at h
        next hlanguage => exact ⟨not_not.1 hname, hlanguage ▸ hfound⟩
        next => cases h
  · intro h
    rcases h with ⟨hname, hlanguage⟩
    simp [hname, hlanguage]

theorem ofElement_eq_ok_iff :
    ofElement root = .ok p ↔
      (root.name = "program" ∧ root.attribute? "language" = some language) ∧
        ∃ instructions, List.Forall₂ Instruction.Reads root.elements instructions ∧
          instructions.Pairwise Instruction.Compatible ∧ p = ofInstructions instructions := by
  simp only [ofElement, bind_eq_ok_iff, pure_eq_ok_iff, Instruction.ofElements_eq_ok_iff]
  constructor
  · intro h
    rcases h with ⟨_, hroot, instructions, ⟨_, rfl, hreads, hpairwise, -⟩, rfl⟩
    exact ⟨checkRoot_eq_ok_iff.1 hroot, instructions, hreads, hpairwise, rfl⟩
  · intro h
    rcases h with ⟨hroot, instructions, hreads, hpairwise, rfl⟩
    exact ⟨(), checkRoot_eq_ok_iff.2 hroot, instructions,
      ⟨instructions, rfl, hreads, hpairwise, by simp⟩, rfl⟩

/-- A root element is in the grammar exactly if its elements are read as instructions that go
together. -/
theorem isDocument_iff :
    IsDocument root ↔
      (root.name = "program" ∧ root.attribute? "language" = some language) ∧
        ∃ instructions, List.Forall₂ Instruction.Reads root.elements instructions ∧
          instructions.Pairwise Instruction.Compatible := by
  constructor
  · intro h
    have hevery : ∀ e ∈ root.elements, ∃ i, Instruction.Reads e i := fun e he =>
      Instruction.isInstruction_iff.1 (h.instructions e he)
    rcases exists_forall₂_iff.2 hevery with ⟨instructions, hreads⟩
    -- Whether two elements go together can be seen from their instructions.
    refine ⟨⟨h.name, h.language⟩, instructions, hreads, ?_⟩
    rw [← pairwise_iff_of_forall₂ hreads fun _ _ _ _ ha hb => ha.compatible_iff hb]
    exact List.pairwise_and_iff.2 ⟨h.orders, h.labels⟩
  · intro h
    rcases h with ⟨⟨hname, hlanguage⟩, instructions, hreads, hpairwise⟩
    rw [← pairwise_iff_of_forall₂ hreads fun _ _ _ _ ha hb => ha.compatible_iff hb] at hpairwise
    rcases List.pairwise_and_iff.1 hpairwise with ⟨horders, hlabels⟩
    refine ⟨hname, hlanguage, ?_, horders, hlabels⟩
    intro e he
    exact Instruction.isInstruction_iff.2 (exists_forall₂_iff.1 ⟨_, hreads⟩ e he)

theorem perm_ofInstructions (instructions : List Instruction) :
    instructions.Perm (ofInstructions instructions).instructions.toList :=
  (List.mergeSort_perm _ _).symm

/-- Every instruction of an accepted program has been read from an element: sorting moves the
instructions, and adds none. -/
theorem exists_reads_of_mem (h : ofElement root = .ok p) {i : Instruction}
    (hi : i ∈ p.instructions) : ∃ e, Instruction.Reads e i := by
  rcases ofElement_eq_ok_iff.1 h with ⟨-, instructions, hreads, -, rfl⟩
  have hmem : i ∈ instructions :=
    (perm_ofInstructions instructions).mem_iff.2 (Array.mem_toList_iff.2 hi)
  exact exists_forall₂_iff.1 ⟨_, hreads.flip⟩ i hmem

/-! ## Texts of documents -/

section Texts

variable {parse? : String → Option Element} {text : String}

theorem ofTextBy_of_parse? (h : parse? text = some root) :
    ofTextBy parse? text = ofElement root := by
  unfold ofTextBy
  rw [h]

theorem ofTextBy_eq_ok_iff :
    ofTextBy parse? text = .ok p ↔ ∃ root, parse? text = some root ∧ ofElement root = .ok p := by
  unfold ofTextBy
  cases parse? text <;> simp

/-- A document is the program of the instructions that its elements are read as. -/
theorem ofText_eq_ok_of_reads (instructions : List Instruction)
    (h : ((Element.parse? text).map fun root =>
        (checkRoot root, Instruction.ofElements [] root.elements)) =
      some (.ok (), .ok instructions)) :
    ofText text = .ok (ofInstructions instructions) := by
  rcases Option.map_eq_some_iff.1 h with ⟨root, hparse, hboth⟩
  rcases Prod.mk.inj hboth with ⟨hroot, hinstructions⟩
  refine ofTextBy_eq_ok_iff.2 ⟨root, hparse, ?_⟩
  simp only [ofElement, hroot, hinstructions]
  rfl

end Texts

/-- However its text is read, a document is accepted exactly if its tree is in the grammar.  Then
its elements and the instructions of the program correspond to each other, one to one. -/
theorem ofTextBy_accepts_iff (parse? : String → Option Element) (text : String) (root : Element)
    (hroot : parse? text = some root) :
    ((∃ p, ofTextBy parse? text = .ok p) ↔ IsDocument root) ∧
      ∀ p, ofTextBy parse? text = .ok p → ∃ instructions,
        List.Forall₂ Instruction.Spells root.elements instructions ∧
          instructions.Perm p.instructions.toList ∧ p = ofInstructions instructions := by
  rw [ofTextBy_of_parse? hroot, isDocument_iff]
  simp only [ofElement_eq_ok_iff]
  refine ⟨⟨?_, ?_⟩, ?_⟩
  · intro h
    rcases h with ⟨p, hhead, instructions, hreads, hpairwise, -⟩
    exact ⟨hhead, instructions, hreads, hpairwise⟩
  · intro h
    rcases h with ⟨hhead, instructions, hreads, hpairwise⟩
    exact ⟨_, hhead, instructions, hreads, hpairwise, rfl⟩
  · intro p h
    rcases h with ⟨-, instructions, hreads, -, rfl⟩
    exact ⟨instructions, hreads.imp fun _ _ h => h.spells, perm_ofInstructions instructions, rfl⟩

/-- A document whose attributes stand in the other sequence, and whose order has a sign, zeros and
spaces, is in the grammar. -/
theorem ofText_accepts_write :
    ∃ root, Element.parse? ("<program language=\"IPPcode18\"><instruction opcode=\"WRITE\" " ++
        "order=\" +07 \"><arg1 type=\"int\">-5</arg1></instruction></program>") = some root ∧
      IsDocument root := by
  have hparses : (Element.parse?
      ("<program language=\"IPPcode18\"><instruction opcode=\"WRITE\" " ++
      "order=\" +07 \"><arg1 type=\"int\">-5</arg1></instruction></program>")).isSome = true := by
    decide +kernel
  rcases Option.isSome_iff_exists.1 hparses with ⟨root, hroot⟩
  refine ⟨root, hroot, (ofTextBy_accepts_iff _ _ _ hroot).1.1 ⟨?_, ?_⟩⟩
  · exact ofInstructions [⟨.write, .ofInt 7, [.literal (.int (-5))]⟩]
  · decide +kernel

end Program

end FrameCode
