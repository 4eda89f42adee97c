import FrameCode.Proofs.Arrangement
import Mathlib.Data.List.Perm.Basic

/-!
# Documents in another sequence

The elements of a document may stand in any sequence: the instructions are told apart by their
orders, and the arguments of an instruction by their names.  Everything that is not an element may
be different as well.

- `Instruction.SameArguments`: an element with its arguments in another sequence
- `Program.Rearranges`: a document with its elements in another sequence
- `Program.ofElement_rearranged`: both are the same program
-/

namespace FrameCode

open Markup (Element)

/-! ## Instructions -/

namespace Instruction

/-- An element is another one with its arguments in a different sequence. -/
structure SameArguments (e other : Element) : Prop where
  name : other.name = e.name
  attributes : other.attributes = e.attributes
  arguments : other.elements.Perm e.elements

variable {e other : Element} {i : Instruction}

theorem SameArguments.attribute?_eq (h : SameArguments e other) (name : String) :
    other.attribute? name = e.attribute? name := by
  simp only [Element.attribute?, h.attributes]

/-- An instruction is read from its arguments by their names, whatever their sequence. -/
theorem SameArguments.reads (h : SameArguments e other) (hreads : Reads e i) : Reads other i where
  name := h.name.trans hreads.name
  attributes := (congrArg List.length h.attributes).trans hreads.attributes
  order := by
    rcases hreads.order with ⟨text, htext, hnumeral⟩
    exact ⟨text, (h.attribute?_eq "order").trans htext, hnumeral⟩
  opcode := (h.attribute?_eq "opcode").trans hreads.opcode
  arguments := by
    rcases hreads.arguments with ⟨hnames, hoperands⟩
    refine ⟨(h.arguments.map Element.name).trans hnames, hoperands.imp ?_⟩
    intro position o hargument
    rcases hargument with ⟨argument, hmem, hname, hreads⟩
    exact ⟨argument, h.arguments.mem_iff.2 hmem, hname, hreads⟩

theorem reads_of_sameArguments {elements others : List Element} {instructions : List Instruction}
    (hsame : List.Forall₂ SameArguments elements others)
    (hreads : List.Forall₂ Reads elements instructions) :
    List.Forall₂ Reads others instructions := by
  induction hsame generalizing instructions with
  | nil =>
    cases hreads
    exact .nil
  | cons hfirst _ ih =>
    rcases List.forall₂_cons_left_iff.1 hreads with ⟨i, later, hi, hlater, rfl⟩
    exact .cons (hfirst.reads hi) (ih hlater)

end Instruction

/-! ## Programs -/

namespace Program

variable {instructions others : List Instruction}

/-- Instructions of different orders have one sorted sequence. -/
theorem ofInstructions_eq_of_perm (hdistinct : instructions.Pairwise fun a b => a.order ≠ b.order)
    (hperm : others.Perm instructions) : ofInstructions others = ofInstructions instructions := by
  have hdistinct' : others.Pairwise fun a b => a.order ≠ b.order :=
    (hperm.pairwise_iff fun hne => Ne.symm hne).2 hdistinct
  have hsorted : (sort others).Perm (sort instructions) :=
    ((sort_perm others).trans hperm).trans (sort_perm instructions).symm
  -- Of distinct orders there is only one ascending sequence.
  have hsame : sort others = sort instructions := by
    refine List.Perm.eq_of_pairwise ?_ (sort_strictly_ascending hdistinct')
      (sort_strictly_ascending hdistinct) hsorted
    intro a b _ _ hab hba
    exact absurd hba (Int.not_lt.2 (Int.le_of_lt hab))
  unfold ofInstructions
  rw [hsame]

/-- A root element is another one with its instructions, and the arguments of each of them, in a
different sequence. -/
structure Rearranges (root other : Element) : Prop where
  name : other.name = root.name
  attributes : other.attributes = root.attributes
  instructions : ∃ elements, elements.Perm root.elements ∧
    List.Forall₂ Instruction.SameArguments elements other.elements

/-- The elements of a rearranged document are read as the same instructions in another sequence. -/
theorem Rearranges.reads {root other : Element} (h : Rearranges root other)
    (hreads : List.Forall₂ Instruction.Reads root.elements instructions) :
    ∃ others, List.Forall₂ Instruction.Reads other.elements others ∧ others.Perm instructions := by
  rcases h.instructions with ⟨elements, hperm, hsame⟩
  rcases List.perm_comp_forall₂ hperm hreads with ⟨others, hreads', hothers⟩
  exact ⟨others, Instruction.reads_of_sameArguments hsame hreads', hothers⟩

/-- A document that is rearranged is the same program, and so is every text of it, however it is
read. -/
theorem ofElement_rearranged (root other : Element) (p : Program) (h : Rearranges root other)
    (hload : ofElement root = .ok p) :
    ofElement other = .ok p ∧
      ∀ (parse? : String → Option Element) text, parse? text = some other →
        ofTextBy parse? text = .ok p := by
  rcases ofElement_eq_ok_iff.1 hload with
    ⟨⟨hname, hlanguage⟩, instructions, hreads, hcompatible, hp⟩
  rcases h.reads hreads with ⟨others, hothers, hperm⟩
  have hroot : other.name = "program" ∧ other.attribute? "language" = some language := by
    refine ⟨h.name.trans hname, ?_⟩
    simpa only [Element.attribute?, h.attributes] using hlanguage
  have hpairwise : others.Pairwise Instruction.Compatible :=
    (hperm.pairwise_iff fun hab => hab.symm).2 hcompatible
  have hsame : p = ofInstructions others :=
    hp.trans (ofInstructions_eq_of_perm (hcompatible.imp And.left) hperm).symm
  have hother : ofElement other = .ok p :=
    ofElement_eq_ok_iff.2 ⟨hroot, others, hothers, hpairwise, hsame⟩
  refine ⟨hother, ?_⟩
  intro parse? text hparse
  exact ofTextBy_eq_ok_iff.2 ⟨other, hparse, hother⟩

/-- The second instruction stands first, and its second argument before the first one. -/
theorem ofElement_rearranged_move :
    ∃ (root other : Element) (p : Program),
      root.elements.map (·.elements.map Element.name) = [["arg1"], ["arg1", "arg2"]] ∧
      other.elements.map (·.elements.map Element.name) = [["arg2", "arg1"], ["arg1"]] ∧
      Rearranges root other ∧ ofElement root = .ok p ∧ ofElement other = .ok p := by
  refine ⟨⟨"program", [⟨none, "language", "IPPcode18"⟩],
      [.element "instruction" [⟨none, "order", "1"⟩, ⟨none, "opcode", "DEFVAR"⟩]
        [.element "arg1" [⟨none, "type", "var"⟩] [.text "GF@x"]],
      .element "instruction" [⟨none, "order", "02"⟩, ⟨none, "opcode", "MOVE"⟩]
        [.element "arg1" [⟨none, "type", "var"⟩] [.text "GF@x"],
        .element "arg2" [⟨none, "type", "int"⟩] [.text "5"]]]⟩,
    ⟨"program", [⟨none, "language", "IPPcode18"⟩],
      [.element "instruction" [⟨none, "order", "02"⟩, ⟨none, "opcode", "MOVE"⟩]
        [.element "arg2" [⟨none, "type", "int"⟩] [.text "5"],
        .element "arg1" [⟨none, "type", "var"⟩] [.text "GF@x"]],
      .element "instruction" [⟨none, "order", "1"⟩, ⟨none, "opcode", "DEFVAR"⟩]
        [.element "arg1" [⟨none, "type", "var"⟩] [.text "GF@x"]]]⟩,
    ofInstructions [⟨.declare, .ofInt 1, [.var ⟨.global, "x"⟩]⟩,
      ⟨.move, .ofInt 2, [.var ⟨.global, "x"⟩, .literal (.int 5)]⟩],
    rfl, rfl, ?same, ?load, (ofElement_rearranged _ _ _ ?same ?load).1⟩
  case same =>
    exact ⟨rfl, rfl, _, .swap _ _ _,
      .cons ⟨rfl, rfl, .swap _ _ _⟩ (.cons ⟨rfl, rfl, .refl _⟩ .nil)⟩
  case load =>
    exact bind_eq_ok_iff.2 ⟨(), by decide +kernel, bind_eq_ok_iff.2 ⟨_, by decide +kernel, rfl⟩⟩

end Program

end FrameCode
