import FrameCode.Proofs.DocumentGrammar

/-!
# Why documents are rejected

The error of a document is about the first element that is not accepted.  For each error there is
one rule that says which element it is about and what it repeats of this element.

- `Instruction.Rejects`: why an element is not accepted after some instructions
- `Instruction.ofElement_eq_error`, `Instruction.ofElements_eq_error_iff`: one element, and all of
  them
- `Program.Rejects`, `Program.ofElement_eq_error`: why a root element is not a program
- `Instruction.names`, `Instruction.Reads.isName`: what is accepted has proper names only
-/

namespace FrameCode

open Markup (Element)

/-! ## Literals -/

/-- The text that is not the expected literal. -/
def LexError.text : LexError → String
  | malformed _ text => text
  | overflow text => text

theorem Word.text_of_parse_eq_error {text : String} {reason : LexError}
    (h : parse text = .error reason) : reason.text = text := by
  unfold parse at h
  split at h
  next =>
    cases h
    rfl
  next =>
    split at h
    next =>
      cases h
      rfl
    next => cases h

theorem Value.text_of_parse_eq_error {tag : TypeTag} {text : String} {reason : LexError}
    (h : parse tag text = .error reason) : reason.text = text := by
  cases tag with
  | int => exact Word.text_of_parse_eq_error (map_eq_error_iff.1 h)
  | bool =>
    have hbool : parseBool text = .error reason := map_eq_error_iff.1 h
    unfold parseBool at hbool
    split at hbool
    next => cases hbool
    next =>
      split at hbool
      next => cases hbool
      next =>
        cases hbool
        rfl
  | string =>
    have hstring : parseString text = .error reason := map_eq_error_iff.1 h
    unfold parseString at hstring
    split at hstring
    next => cases hstring
    next =>
      cases hstring
      rfl
  | type =>
    have htype : parseType text = .error reason := map_eq_error_iff.1 h
    unfold parseType at htype
    split at htype
    next =>
      cases htype
      rfl
    next => cases htype

/-- An argument that cannot be read is reported with its whole text. -/
theorem Operand.text_of_parse_eq_error {given : ArgumentType} {text : String} {reason : LexError}
    (h : parse given text = .error reason) : reason.text = text := by
  cases given with
  | var =>
    have hvariable : parseVariable text = .error reason := map_eq_error_iff.1 h
    unfold parseVariable at hvariable
    split at hvariable
    next =>
      cases hvariable
      rfl
    next => cases hvariable
  | label =>
    have hlabel : parseLabel text = .error reason := map_eq_error_iff.1 h
    unfold parseLabel at hlabel
    split at hlabel
    next => cases hlabel
    next =>
      cases hlabel
      rfl
  | int | bool | string | type => exact Value.text_of_parse_eq_error (map_eq_error_iff.1 h)

/-! ## Elements -/

namespace Instruction

/-- Why an element is not accepted after the instructions of the elements before it.  The site is
the one that messages name. -/
inductive Rejects (earlier : List Instruction) (e : Element) (site : String) : LoadError → Prop
  | unexpectedElement (hname : e.name ≠ "instruction") :
      Rejects earlier e site (.unexpectedElement (earlier.length + 1) e.name)
  | attributeCount (hcount : e.attributes.length ≠ 2) :
      Rejects earlier e site (.attributeCount site e.attributes.length)
  | missingAttribute (name : String) (hname : name ∈ ["order", "opcode"])
      (hmissing : e.attribute? name = none) : Rejects earlier e site (.missingAttribute site name)
  | invalidOrder (hinvalid : ∀ n, ¬ HasOrder e n) : Rejects earlier e site (.invalidOrder site)
  | duplicateOrder (order : Order) (horder : HasOrder e order.toInt)
      (hearlier : ∃ j ∈ earlier, j.order = order) : Rejects earlier e site (.duplicateOrder order)
  | unknownOpcode (opcode : String) (hopcode : e.attribute? "opcode" = some opcode) :
      Rejects earlier e site (.unknownOpcode site opcode)
  | argumentCount (op : Opcode) (hcount : e.elements.length ≠ op.arity) :
      Rejects earlier e site (.argumentCount site op e.elements.length)
  | missingArgument (index : Nat) (hmissing : ∀ a ∈ e.elements, a.name ≠ argumentName index) :
      Rejects earlier e site (.missingArgument site index)
  | argumentAttributes (argument : Element) (hargument : argument ∈ e.elements) (index : Nat)
      (hcount : argument.attributes.length ≠ 1) :
      Rejects earlier e site (.argumentAttributes site index argument.attributes.length)
  | missingArgumentType (argument : Element) (hargument : argument ∈ e.elements) (index : Nat)
      (hmissing : argument.attribute? "type" = none) :
      Rejects earlier e site (.missingArgumentType site index)
  | incompatibleArgument (argument : Element) (hargument : argument ∈ e.elements) (index : Nat)
      (op : Opcode) (found : String) (hfound : argument.attribute? "type" = some found) :
      Rejects earlier e site (.incompatibleArgument site index op found)
  | invalidArgument (argument : Element) (hargument : argument ∈ e.elements) (index : Nat)
      (reason : LexError) (hreason : reason.text = argument.text) :
      Rejects earlier e site (.invalidArgument site index reason)
  | duplicateLabel (i : Instruction) (hreads : Reads e i) (label : String)
      (hlabel : i.definition? = some label) (hearlier : ∃ j ∈ earlier, j.definition? = some label) :
      Rejects earlier e site (.duplicateLabel site label)

variable {earlier : List Instruction} {e : Element} {site : String} {error : LoadError}

theorem argumentOf_rejects {index : Nat} (h : argumentOf site e index = .error error) :
    Rejects earlier e site error := by
  unfold argumentOf at h
  split at h
  next hnone =>
    cases h
    exact .missingArgument index (by simpa using hnone)
  next => cases h

theorem argumentTypeOf_rejects {op : Opcode} {index : Nat} {kind : OperandKind}
    {argument : Element} (hargument : argument ∈ e.elements)
    (h : argumentTypeOf site op index kind argument = .error error) :
    Rejects earlier e site error := by
  unfold argumentTypeOf at h
  split at h
  next hcount =>
    cases h
    exact .argumentAttributes argument hargument index hcount
  next =>
    split at h
    next hmissing =>
      cases h
      exact .missingArgumentType argument hargument index hmissing
    next found hfound =>
      split at h
      next =>
        cases h
        exact .incompatibleArgument argument hargument index op found hfound
      next => cases h

theorem operandOf_rejects {op : Opcode} {kind : OperandKind} {index : Nat}
    (h : operandOf site op e kind index = .error error) : Rejects earlier e site error := by
  rcases bind_eq_error_iff.1 h with hmissing | ⟨argument, hfound, h⟩
  · exact argumentOf_rejects hmissing
  · have hargument := mem_of_argumentOf hfound
    rcases bind_eq_error_iff.1 h with htype | ⟨given, -, hparse⟩
    · exact argumentTypeOf_rejects hargument htype
    · split at hparse
      next reason hreason =>
        cases hparse
        exact .invalidArgument argument hargument index reason
          (Operand.text_of_parse_eq_error hreason)
      next => cases hparse

theorem operandsOf_rejects {op : Opcode} (h : operandsOf site op e = .error error) :
    Rejects earlier e site error := by
  unfold operandsOf at h
  split at h
  next hcount =>
    cases h
    exact .argumentCount op hcount
  next =>
    rcases mapM_eq_error h with ⟨⟨kind, index⟩, -, hoperand⟩
    exact operandOf_rejects hoperand

theorem orderOf_rejects (h : orderOf earlier site e = .error error) :
    Rejects earlier e site error := by
  unfold orderOf at h
  split at h
  next hmissing =>
    cases h
    exact .missingAttribute "order" (by simp) hmissing
  next text htext =>
    split at h
    next reason hreason =>
      cases h
      refine .invalidOrder fun n hn => ?_
      rcases hn with ⟨text', htext', hnumeral⟩
      cases htext.symm.trans htext'
      rcases Order.exists_toInt_eq hnumeral with ⟨order, rfl⟩
      rw [Order.parse_eq_ok_iff.2 hnumeral] at hreason
      cases hreason
    next order horder =>
      split at h
      next hearlier =>
        cases h
        refine .duplicateOrder order ⟨text, htext, Order.parse_eq_ok_iff.1 horder⟩ ?_
        simpa using hearlier
      next => cases h

theorem opcodeOf_rejects (h : opcodeOf site e = .error error) : Rejects earlier e site error := by
  unfold opcodeOf at h
  split at h
  next hmissing =>
    cases h
    exact .missingAttribute "opcode" (by simp) hmissing
  next name hname =>
    split at h
    next =>
      cases h
      exact .unknownOpcode name hname
    next => cases h

theorem checkLabel_rejects {i : Instruction} (hreads : Reads e i)
    (h : checkLabel earlier site i = .error error) : Rejects earlier e site error := by
  unfold checkLabel at h
  split at h
  next => cases h
  next label hlabel =>
    split at h
    next hearlier =>
      cases h
      exact .duplicateLabel i hreads label hlabel (by simpa using hearlier)
    next => cases h

/-- The error of an element says what is wrong with this element. -/
theorem ofElement_eq_error (h : ofElement earlier e = .error error) :
    Rejects earlier e (siteOf (earlier.length + 1) e) error := by
  unfold ofElement at h
  split at h
  next hname =>
    cases h
    exact .unexpectedElement hname
  next hname =>
    split at h
    next hcount =>
      cases h
      exact .attributeCount hcount
    next hcount =>
      -- The parts are read one after the other, and the first that cannot be read gives the error.
      rcases bind_eq_error_iff.1 h with horder | ⟨order, horder, h⟩
      · exact orderOf_rejects horder
      rcases bind_eq_error_iff.1 h with hop | ⟨op, hop, h⟩
      · exact opcodeOf_rejects hop
      rcases bind_eq_error_iff.1 h with hoperands | ⟨operands, hoperands, h⟩
      · exact operandsOf_rejects hoperands
      rcases bind_eq_error_iff.1 h with hlabel | ⟨_, -, hnever⟩
      · have hreads : Reads e ⟨op, order, operands⟩ :=
          ⟨not_not.1 hname, not_not.1 hcount, (orderOf_eq_ok_iff.1 horder).1,
            opcodeOf_eq_ok_iff.1 hop, operandsOf_eq_ok_iff.1 hoperands⟩
        exact checkLabel_rejects hreads hlabel
      · cases hnever

/-- The elements behind some others are read after the instructions of these. -/
theorem ofElements_append {before after : List Element} :
    ofElements earlier (before ++ after) =
      ofElements earlier before >>= fun read => ofElements read.reverse after := by
  induction before generalizing earlier with
  | nil =>
    have hread : earlier.reverse.reverse = earlier := List.reverse_reverse earlier
    exact congrArg (ofElements · after) hread.symm
  | cons first later ih =>
    have hlater : ∀ i, ofElements (i :: earlier) (later ++ after) =
        ofElements (i :: earlier) later >>= fun read => ofElements read.reverse after :=
      fun i => ih
    simp only [List.cons_append, ofElements, hlater, bind_assoc]

/-- The error of some elements is the one of the first element that is not accepted, whatever stands
behind it; those before it have been read. -/
theorem ofElements_eq_error_iff {elements : List Element} :
    ofElements earlier elements = .error error ↔
      ∃ before e after read, elements = before ++ e :: after ∧
        ofElements earlier before = .ok read ∧ ofElement read.reverse e = .error error := by
  constructor
  · intro h
    induction elements generalizing earlier with
    | nil => cases h
    | cons first later ih =>
      rcases bind_eq_error_iff.1 h with hfirst | ⟨i, hfirst, hlater⟩
      · exact ⟨[], first, later, earlier.reverse, rfl, rfl, by rwa [List.reverse_reverse]⟩
      · rcases ih hlater with ⟨before, e, after, read, rfl, hread, hrejected⟩
        have hbefore : ofElements earlier (first :: before) = .ok read :=
          bind_eq_ok_iff.2 ⟨i, hfirst, hread⟩
        exact ⟨first :: before, e, after, read, rfl, hbefore, hrejected⟩
  · intro h
    rcases h with ⟨before, e, after, read, rfl, hread, hrejected⟩
    have hlater : ofElements read.reverse (e :: after) = .error error :=
      bind_eq_error_iff.2 (.inl hrejected)
    rw [ofElements_append]
    exact bind_eq_error_iff.2 (.inr ⟨read, hread, hlater⟩)

end Instruction

/-! ## Programs -/

namespace Program

/-- Why a root element is not a program. -/
inductive Rejects (root : Element) : LoadError → Prop
  | invalidRoot (hname : root.name ≠ "program") : Rejects root (.invalidRoot root.name)
  | missingLanguage (hmissing : root.attribute? "language" = none) : Rejects root .missingLanguage
  | unknownLanguage (found : String) (hfound : root.attribute? "language" = some found)
      (hother : found ≠ language) : Rejects root (.unknownLanguage found)
  | instruction (before : List Element) (e : Element) (after : List Element)
      (instructions : List Instruction) (helements : root.elements = before ++ e :: after)
      (hreads : List.Forall₂ Instruction.Reads before instructions) (error : LoadError)
      (hrejected : Instruction.Rejects instructions.reverse e
        (Instruction.siteOf (instructions.length + 1) e) error) :
      Rejects root error

variable {root : Element} {error : LoadError}

theorem checkRoot_rejects (h : checkRoot root = .error error) : Rejects root error := by
  unfold checkRoot at h
  split at h
  next hname =>
    cases h
    exact .invalidRoot hname
  next =>
    split at h
    next hmissing =>
      cases h
      exact .missingLanguage hmissing
    next found hfound =>
      split at h
      next => cases h
      next hother =>
        cases h
        exact .unknownLanguage found hfound hother

theorem ofElement_eq_error (h : ofElement root = .error error) : Rejects root error := by
  rcases bind_eq_error_iff.1 h with hroot | ⟨_, -, h⟩
  · exact checkRoot_rejects hroot
  · rcases bind_eq_error_iff.1 h with helements | ⟨_, -, hnever⟩
    · rcases Instruction.ofElements_eq_error_iff.1 helements with
        ⟨before, e, after, instructions, hsplit, hread, hfailed⟩
      rcases Instruction.ofElements_eq_ok_iff.1 hread with ⟨_, rfl, hreads, -⟩
      have hrejected := Instruction.ofElement_eq_error hfailed
      rw [List.length_reverse] at hrejected
      exact .instruction before e after instructions hsplit hreads error hrejected
    · cases hnever

end Program

/-! ## Names of operands -/

/-- The names that stand in an operand. -/
def Operand.names : Operand → List String
  | var v => [v.name]
  | literal _ => []
  | label name => [name]

theorem Operand.Spelled.isName {given : ArgumentType} {text : String} {o : Operand}
    (h : Spelled given text o) : ∀ name ∈ o.names, Text.IsName name := by
  cases h with
  | var v hname => exact List.forall_mem_singleton.2 hname
  | label name hname => exact List.forall_mem_singleton.2 hname
  | _ => exact fun _ hname => nomatch hname

namespace Instruction

/-- The names that stand in the operands of an instruction. -/
def names (i : Instruction) : List String :=
  i.operands.flatMap Operand.names

variable {i : Instruction}

theorem mem_names_of_var {v : Variable} (h : Operand.var v ∈ i.operands) : v.name ∈ i.names :=
  List.mem_flatMap.2 ⟨_, h, by simp [Operand.names]⟩

theorem mem_names_of_label {name : String} (h : Operand.label name ∈ i.operands) :
    name ∈ i.names :=
  List.mem_flatMap.2 ⟨_, h, by simp [Operand.names]⟩

/-- Every operand of what is accepted is written as the text of some argument. -/
theorem Reads.exists_spelled {e : Element} (h : Reads e i) {o : Operand} (ho : o ∈ i.operands) :
    ∃ given text, Operand.Spelled given text o := by
  rcases exists_forall₂_iff.1 ⟨_, h.arguments.2.flip⟩ o ho with
    ⟨p, argument, -, -, given, -, -, hspelled⟩
  exact ⟨given, argument.text, hspelled⟩

/-- What is accepted has proper names only. -/
theorem Reads.isName {e : Element} (h : Reads e i) : ∀ name ∈ i.names, Text.IsName name := by
  intro name hname
  rcases List.mem_flatMap.1 hname with ⟨o, ho, hname⟩
  rcases h.exists_spelled ho with ⟨given, text, hspelled⟩
  exact hspelled.isName name hname

end Instruction

end FrameCode
