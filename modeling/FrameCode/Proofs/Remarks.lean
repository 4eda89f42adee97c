import FrameCode.Proofs.Arrangement

/-!
# Comments and processing instructions

Comments and processing instructions are remarks on a program and no part of it.  A document is
looked at on three levels, and among the children of the root and of an instruction all remarks are
passed over.  The text of an argument, though, is only its first child: a remark before the text
hides it, and a remark inside the text hides what comes behind.

- `Markup.Element.bare`: an element without remarks, with the text on both sides of them joined
- `Markup.Element.payload`: all text before the first element inside an element
- `Program.ofElement_bare`: remarks do not matter where the text of each argument is its payload
- `Program.ofElement_bare_ne`: a remark in the middle of a number does matter
-/

namespace FrameCode

namespace Markup

/-! ## Documents without remarks -/

namespace Node

/-- Puts text before some nodes; text that comes first among them is one node with it. -/
def prependText (content : String) : List Node → List Node
  | text later :: rest => text (content ++ later) :: rest
  | nodes => text content :: nodes

mutual

/-- Puts a node, without the remarks inside it, before some nodes; a remark is left out. -/
def prependBare : Node → List Node → List Node
  | element name attributes children, later => element name attributes (bare children) :: later
  | text content, later => prependText content later
  | comment _, later => later
  | instruction _ _, later => later

/-- Some nodes without the remarks among them and inside them. -/
def bare : List Node → List Node
  | [] => []
  | first :: rest => prependBare first (bare rest)

end

/-- The text before the first element among some nodes, whatever remarks stand in it. -/
def payload : List Node → String
  | [] => ""
  | element .. :: _ => ""
  | text content :: rest => content ++ payload rest
  | comment _ :: rest => payload rest
  | instruction _ _ :: rest => payload rest

end Node

namespace Element

/-- An element without the remarks in it.  No two texts of a document stand side by side, so only
texts with a remark between them are joined. -/
def bare (e : Element) : Element :=
  { e with children := Node.bare e.children }

/-- The text before the first element inside an element, whatever remarks stand in it. -/
def payload (e : Element) : String :=
  Node.payload e.children

end Element

/-! ## What is left of an element -/

namespace Node

theorem filterMap_element?_prependText (content : String) (nodes : List Node) :
    (prependText content nodes).filterMap element? = nodes.filterMap element? := by
  unfold prependText
  split <;> rfl

/-- The elements among some nodes stay, each without its own remarks. -/
theorem filterMap_element?_bare (nodes : List Node) :
    (bare nodes).filterMap element? = (nodes.filterMap element?).map Element.bare := by
  induction nodes with
  | nil => rfl
  | cons first rest ih =>
    cases first with
    | element name attributes children =>
      exact congrArg (Element.bare ⟨name, attributes, children⟩ :: ·) ih
    | text content => exact (filterMap_element?_prependText content (bare rest)).trans ih
    | comment content => exact ih
    | instruction target content => exact ih

/-- The text that some nodes begin with. -/
def firstText (nodes : List Node) : String :=
  match nodes.head? with
  | some (text content) => content
  | _ => ""

theorem firstText_prependText (content : String) (nodes : List Node) :
    firstText (prependText content nodes) = content ++ firstText nodes := by
  cases nodes with
  | nil => exact (String.append_empty).symm
  | cons first rest =>
    cases first with
    | text later => rfl
    | _ => exact (String.append_empty).symm

/-- Without remarks, all the text before the first element comes first. -/
theorem firstText_bare (nodes : List Node) : firstText (bare nodes) = payload nodes := by
  induction nodes with
  | nil => rfl
  | cons first rest ih =>
    cases first with
    | element name attributes children => rfl
    | text content => exact (firstText_prependText content (bare rest)).trans (congrArg _ ih)
    | comment content => exact ih
    | instruction target content => exact ih

end Node

namespace Element

@[simp]
theorem name_bare (e : Element) : e.bare.name = e.name := rfl

@[simp]
theorem attributes_bare (e : Element) : e.bare.attributes = e.attributes := rfl

@[simp]
theorem attribute?_bare (e : Element) (name : String) :
    e.bare.attribute? name = e.attribute? name := rfl

@[simp]
theorem elements_bare (e : Element) : e.bare.elements = e.elements.map bare :=
  Node.filterMap_element?_bare e.children

@[simp]
theorem text_bare (e : Element) : e.bare.text = e.payload :=
  Node.firstText_bare e.children

end Element
end Markup

/-! ## Instructions without remarks -/

open Markup (Element)

namespace Instruction

variable {site : String} {op : Opcode} {e : Element}

theorem argumentOf_bare (index : Nat) :
    argumentOf site e.bare index = Element.bare <$> argumentOf site e index := by
  unfold argumentOf
  have hname : (fun a : Element => decide (a.name = argumentName index)) ∘ Element.bare =
      fun a => decide (a.name = argumentName index) := rfl
  rw [Element.elements_bare, List.find?_map, hname]
  cases e.elements.find? fun a => decide (a.name = argumentName index) <;> rfl

/-- An argument whose text is all of its payload is read the same without its remarks. -/
theorem operandOf_bare (h : ∀ a ∈ e.elements, a.text = a.payload) (kind : OperandKind)
    (index : Nat) : operandOf site op e.bare kind index = operandOf site op e kind index := by
  unfold operandOf
  rw [argumentOf_bare]
  cases hargument : argumentOf site e index with
  | error failure => rfl
  | ok argument =>
    have htext : argument.bare.text = argument.text :=
      (Element.text_bare argument).trans (h argument (mem_of_argumentOf hargument)).symm
    have htype : argumentTypeOf site op index kind argument.bare =
        argumentTypeOf site op index kind argument := rfl
    simp only [Functor.map, Except.map, bind, Except.bind, htype, htext]

theorem operandsOf_bare (h : ∀ a ∈ e.elements, a.text = a.payload) :
    operandsOf site op e.bare = operandsOf site op e := by
  unfold operandsOf
  simp only [Element.elements_bare, List.length_map, operandOf_bare h]

theorem ofElement_bare_of_payload (h : ∀ a ∈ e.elements, a.text = a.payload)
    (earlier : List Instruction) : ofElement earlier e.bare = ofElement earlier e := by
  unfold ofElement siteOf orderOf opcodeOf
  simp only [Element.name_bare, Element.attributes_bare, Element.attribute?_bare,
    operandsOf_bare h]

theorem ofElements_bare {elements : List Element}
    (h : ∀ e ∈ elements, ∀ a ∈ e.elements, a.text = a.payload) (earlier : List Instruction) :
    ofElements earlier (elements.map Element.bare) = ofElements earlier elements := by
  induction elements generalizing earlier with
  | nil => rfl
  | cons e later ih =>
    rcases List.forall_mem_cons.1 h with ⟨hfirst, hlater⟩
    simp only [List.map_cons, ofElements, ofElement_bare_of_payload hfirst, ih hlater]

end Instruction

/-! ## Programs without remarks -/

namespace Program

/-- A document is read the same without its comments and processing instructions, as a program or as
an error, if the text of each argument is its payload.  This leaves every place among instructions
and among arguments to remarks, and in an argument the places behind its text. -/
theorem ofElement_bare (root : Element)
    (h : ∀ e ∈ root.elements, ∀ a ∈ e.elements, a.text = a.payload) :
    ofElement root.bare = ofElement root := by
  have hroot : checkRoot root.bare = checkRoot root := rfl
  unfold ofElement
  rw [hroot, Element.elements_bare, Instruction.ofElements_bare h]

/-- Remarks stand before and behind an instruction, between its arguments and behind the text of
one of them; the other one has no text and an element behind a remark. -/
theorem ofElement_bare_read :
    ∃ root other : Element,
      root.children.length = 3 ∧ other.children.length = 1 ∧ root.bare = other ∧
      (∀ e ∈ root.elements, ∀ a ∈ e.elements, a.text = a.payload) ∧
      ofElement other = ofElement root := by
  refine ⟨⟨"program", [⟨none, "language", "IPPcode18"⟩],
      [.comment "a", .element "instruction" [⟨none, "order", "1"⟩, ⟨none, "opcode", "MOVE"⟩]
        [.element "arg1" [⟨none, "type", "var"⟩] [.text "GF@x", .comment "b"],
        .instruction "c" "d",
        .element "arg2" [⟨none, "type", "string"⟩] [.comment "e", .element "f" [] [.text "g"]]],
      .comment "h"]⟩,
    ⟨"program", [⟨none, "language", "IPPcode18"⟩],
      [.element "instruction" [⟨none, "order", "1"⟩, ⟨none, "opcode", "MOVE"⟩]
        [.element "arg1" [⟨none, "type", "var"⟩] [.text "GF@x"],
        .element "arg2" [⟨none, "type", "string"⟩] [.element "f" [] [.text "g"]]]]⟩,
    rfl, rfl, rfl, ?payloads, ofElement_bare _ ?payloads⟩
  case payloads => decide +kernel

/-- A comment inside a number cuts the number off; without the comment it is another number. -/
theorem ofElement_bare_ne :
    ∃ root, Element.parse? ("<program language=\"IPPcode18\"><instruction order=\"1\" " ++
        "opcode=\"WRITE\"><arg1 type=\"int\">5<!--c-->6</arg1></instruction></program>") =
          some root ∧
      ofElement root = .ok ⟨#[⟨.write, .ofInt 1, [.literal (.int 5)]⟩], .empty⟩ ∧
      ofElement root.bare = .ok ⟨#[⟨.write, .ofInt 1, [.literal (.int 56)]⟩], .empty⟩ ∧
      ofElement root.bare ≠ ofElement root := by
  have hboth : ((Element.parse?
      ("<program language=\"IPPcode18\"><instruction order=\"1\" " ++
        "opcode=\"WRITE\"><arg1 type=\"int\">5<!--c-->6</arg1></instruction></program>")).map
          fun root => (ofElement root, ofElement root.bare)) =
      some (.ok ⟨#[⟨.write, .ofInt 1, [.literal (.int 5)]⟩], .empty⟩,
        .ok ⟨#[⟨.write, .ofInt 1, [.literal (.int 56)]⟩], .empty⟩) := by
    decide +kernel
  rcases Option.map_eq_some_iff.1 hboth with ⟨root, hparse, hresults⟩
  rcases Prod.mk.inj hresults with ⟨hroot, hbare⟩
  refine ⟨root, hparse, hroot, hbare, ?_⟩
  rw [hroot, hbare]
  decide +kernel

end Program

end FrameCode
