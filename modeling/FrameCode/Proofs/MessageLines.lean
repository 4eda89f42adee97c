import FrameCode.CommandLine
import FrameCode.Proofs.Arrangement
import FrameCode.Proofs.Effects
import FrameCode.Proofs.FaultOrigin
import FrameCode.Proofs.LoadFailures
import FrameCode.Proofs.MarkupNames
import FrameCode.Proofs.Runs

/-!
# Messages of one line

A message is put together from fixed words, numbers, names and texts that it repeats from the
document.  Only the last of these can break the line: attribute values and the texts of arguments,
which a message repeats as they are.  Names have passed a check before they get into a message, so
the messages of a running program are always one line.

- `Text.OneLine`: a text without line breaks
- `LoadError.oneLine_message_iff`, `Fault.oneLine_message_iff`: messages and what they repeat
- `Program.Rejects.oneLine_or_mem_contents`: what the error of a document repeats
- `Instruction.names_of_failed`: the names in a fault are those of the operands
- `Program.messages_oneLine`: which messages are one line
-/

namespace FrameCode

open Markup (Element)

/-! ## Texts of one line -/

namespace Text

/-- A text without line feeds and carriage returns. -/
def OneLine (text : String) : Prop :=
  '\n' ∉ text.toList ∧ '\r' ∉ text.toList

instance (text : String) : Decidable (OneLine text) :=
  inferInstanceAs (Decidable (_ ∧ _))

theorem oneLine_append {a b : String} : OneLine (a ++ b) ↔ OneLine a ∧ OneLine b := by
  unfold OneLine
  simp only [String.toList_append, List.mem_append, not_or]
  exact and_and_and_comm

theorem oneLine_toString {text : String} : OneLine (toString text) ↔ OneLine text :=
  Iff.rfl

theorem oneLine_ofList {chars : List Char} :
    OneLine (.ofList chars) ↔ '\n' ∉ chars ∧ '\r' ∉ chars := by
  unfold OneLine
  rw [String.toList_ofList]

/-- Fixed words drop out of a message; `simp` is told how to check their characters. -/
theorem oneLine_words {words : String} (h : OneLine words) : OneLine words ↔ True :=
  iff_true_intro h

/-- Characters of a class that has no line breaks. -/
theorem oneLine_of_forall {text : String} {p : Char → Bool} (hfeed : p '\n' = false)
    (hreturn : p '\r' = false) (h : ∀ c ∈ text.toList, p c = true) : OneLine text := by
  constructor
  · intro hmem
    have hchar := h '\n' hmem
    rw [hfeed] at hchar
    cases hchar
  · intro hmem
    have hchar := h '\r' hmem
    rw [hreturn] at hchar
    cases hchar

theorem IsName.oneLine {name : String} (h : IsName name) : OneLine name :=
  oneLine_of_forall rfl rfl h.2

theorem oneLine_natural (n : Nat) : OneLine (toString n) := by
  refine oneLine_of_forall (p := Char.isDigit) rfl rfl fun c hc => ?_
  rw [Nat.toString_eq_ofList_toDigits, String.toList_ofList] at hc
  exact Nat.isDigit_of_mem_toDigits (by decide) (by decide) hc

end Text

open Text (OneLine oneLine_append oneLine_toString oneLine_ofList oneLine_words oneLine_natural)

theorem Markup.IsName.oneLine {name : String} (h : IsName name) : OneLine name :=
  Text.oneLine_of_forall rfl rfl h

theorem Numeral.oneLine_render (n : Numeral) : OneLine n.render := by
  refine Text.oneLine_of_forall (p := fun c => c.isDigit || c == '-') rfl rfl fun c hc => ?_
  rcases isDigit_or_minus_of_mem_render hc with hdigit | rfl
  · simp [hdigit]
  · rfl

theorem Word.oneLine_render (n : Word) : OneLine n.render :=
  Numeral.oneLine_render _

theorem Opcode.oneLine_mnemonic (op : Opcode) : OneLine op.mnemonic := by
  cases op <;> exact oneLine_ofList.2 (by decide)

theorem TypeTag.oneLine_name (tag : TypeTag) : OneLine tag.name := by
  cases tag <;> exact oneLine_ofList.2 (by decide)

theorem Scope.oneLine_name (scope : Scope) : OneLine scope.name := by
  cases scope <;> exact oneLine_ofList.2 (by decide)

theorem LiteralKind.oneLine_name (kind : LiteralKind) : OneLine kind.name := by
  cases kind <;> exact oneLine_ofList.2 (by decide)

/-! ## Messages -/

/-- The texts that a message repeats from a document. -/
def LoadError.quotes : LoadError → List String
  | unreadable path reason => [path, reason]
  | notWellFormed | missingLanguage | duplicateOrder _ => []
  | invalidRoot tag => [tag]
  | unknownLanguage language => [language]
  | unexpectedElement _ tag => [tag]
  | attributeCount site _ | invalidOrder site | argumentCount site _ _ | missingArgument site _
  | argumentAttributes site _ _ | missingArgumentType site _ => [site]
  | missingAttribute site name => [name, site]
  | unknownOpcode site opcode => [opcode, site]
  | incompatibleArgument site _ _ found => [found, site]
  | invalidArgument site _ reason => [reason.text, site]
  | duplicateLabel site label => [label, site]

theorem LexError.oneLine_message_iff (reason : LexError) :
    OneLine reason.message ↔ OneLine reason.text := by
  unfold message text
  cases reason <;>
    simp (disch := (refine oneLine_ofList.2 ?_; decide)) only [oneLine_append,
      oneLine_toString, oneLine_words, LiteralKind.oneLine_name, and_true, true_and]

/-- A message is one line exactly if everything that it repeats is. -/
theorem LoadError.oneLine_message_iff (error : LoadError) :
    OneLine error.message ↔ ∀ text ∈ error.quotes, OneLine text := by
  unfold message quotes
  -- Fixed words, numbers and mnemonics drop out; what remains are the quotes.
  cases error <;>
    simp (disch := (refine oneLine_ofList.2 ?_; decide)) only [oneLine_append,
      oneLine_toString, oneLine_words, oneLine_natural, Opcode.oneLine_mnemonic,
      Numeral.oneLine_render, LexError.oneLine_message_iff, List.forall_mem_cons,
      List.not_mem_nil, false_imp_iff, implies_true, and_true, true_and]

/-- The names that a message repeats from an operand. -/
def Fault.names : Fault → List String
  | undefinedVariable v | redefinition v | unassigned v => [v.name]
  | undefinedLabel name => [name]
  | _ => []

theorem Variable.oneLine_render_iff (v : Variable) : OneLine v.render ↔ OneLine v.name := by
  unfold render
  simp (disch := (refine oneLine_ofList.2 ?_; decide)) only [oneLine_append, oneLine_words,
    v.scope.oneLine_name, true_and]

theorem ChannelFailure.oneLine_message (failure : ChannelFailure) : OneLine failure.message := by
  cases failure <;> exact oneLine_ofList.2 (by decide)

theorem Fault.oneLine_message_iff (fault : Fault) :
    OneLine fault.message ↔ ∀ name ∈ fault.names, OneLine name := by
  unfold message names
  cases fault <;>
    simp (disch := (refine oneLine_ofList.2 ?_; decide)) only [oneLine_append,
      oneLine_toString, oneLine_words, oneLine_natural, Opcode.oneLine_mnemonic,
      TypeTag.oneLine_name, Scope.oneLine_name, Word.oneLine_render, Variable.oneLine_render_iff,
      ChannelFailure.oneLine_message, List.forall_mem_cons, List.not_mem_nil, false_imp_iff,
      implies_true, and_true, true_and]

theorem RuntimeError.oneLine_message_iff (e : RuntimeError) :
    OneLine e.message ↔ ∀ name ∈ e.fault.names, OneLine name := by
  rw [← Fault.oneLine_message_iff]
  unfold message
  simp (disch := (refine oneLine_ofList.2 ?_; decide)) only [oneLine_append,
    oneLine_toString, oneLine_words, Numeral.oneLine_render, and_true]

/-! ## Errors of documents -/

/-- The values of the attributes of an element. -/
def Markup.Element.values (e : Element) : List String :=
  e.attributes.map Markup.Attribute.value

theorem Markup.Element.mem_values_of_attribute? {e : Element} {name value : String}
    (h : e.attribute? name = some value) : value ∈ e.values :=
  List.mem_map.2 ⟨_, mem_of_attribute? h, rfl⟩

namespace Instruction

/-- What an element of an instruction contains: the values of its attributes, and for each argument
the text and the values of the attributes. -/
def contents (e : Element) : List String :=
  e.values ++ e.elements.flatMap fun argument => argument.text :: argument.values

variable {e argument : Element}

theorem mem_contents_of_attribute? {name value : String} (h : e.attribute? name = some value) :
    value ∈ contents e :=
  List.mem_append_left _ (Markup.Element.mem_values_of_attribute? h)

theorem mem_contents_of_argument {text : String} (hargument : argument ∈ e.elements)
    (h : text ∈ argument.text :: argument.values) : text ∈ contents e :=
  List.mem_append_right _ (List.mem_flatMap.2 ⟨argument, hargument, h⟩)

/-- The site of an element is its order as it is written, or a number. -/
theorem oneLine_or_mem_contents_siteOf (position : Nat) (e : Element) :
    OneLine (siteOf position e) ∨ siteOf position e ∈ contents e := by
  unfold siteOf
  cases horder : e.attribute? "order" with
  | none =>
    exact .inl (oneLine_append.2 ⟨oneLine_ofList.2 (by decide), oneLine_natural position⟩)
  | some text => exact .inr (mem_contents_of_attribute? horder)

/-- What the error of an element repeats is one line, or stands in the element as it is. -/
theorem Rejects.oneLine_or_mem_contents {earlier : List Instruction} {position : Nat}
    {error : LoadError} (h : Rejects earlier e (siteOf position e) error) (hname : e.Named) :
    ∀ text ∈ error.quotes, OneLine text ∨ text ∈ contents e := by
  have hsite := oneLine_or_mem_contents_siteOf position e
  unfold LoadError.quotes
  cases h with
  | unexpectedElement _ => exact List.forall_mem_singleton.2 (.inl hname.name.oneLine)
  | duplicateOrder order _ _ => exact fun _ htext => nomatch htext
  | attributeCount _ | invalidOrder _ | argumentCount _ _ | missingArgument _ _
  | argumentAttributes _ _ _ _ | missingArgumentType _ _ _ _ =>
    exact List.forall_mem_singleton.2 hsite
  | missingAttribute name hmem _ =>
    refine List.forall_mem_cons.2 ⟨.inl ?_, List.forall_mem_singleton.2 hsite⟩
    simp only [List.mem_cons, List.not_mem_nil, or_false] at hmem
    rcases hmem with rfl | rfl <;> exact oneLine_ofList.2 (by decide)
  | unknownOpcode opcode hopcode =>
    exact List.forall_mem_cons.2
      ⟨.inr (mem_contents_of_attribute? hopcode), List.forall_mem_singleton.2 hsite⟩
  | incompatibleArgument argument hargument _ _ found hfound =>
    refine List.forall_mem_cons.2 ⟨.inr ?_, List.forall_mem_singleton.2 hsite⟩
    exact mem_contents_of_argument hargument
      (List.mem_cons_of_mem _ (Markup.Element.mem_values_of_attribute? hfound))
  | invalidArgument argument hargument _ reason hreason =>
    refine List.forall_mem_cons.2 ⟨.inr ?_, List.forall_mem_singleton.2 hsite⟩
    exact mem_contents_of_argument hargument (hreason ▸ List.mem_cons_self)
  | duplicateLabel i hreads label hlabel _ =>
    -- The label has been read before it turns out to be defined twice.
    refine List.forall_mem_cons.2 ⟨.inl ?_, List.forall_mem_singleton.2 hsite⟩
    have hoperand := List.mem_of_getElem? (definition?_eq_some_iff.1 hlabel).2
    exact (hreads.isName label (mem_names_of_label hoperand)).oneLine

end Instruction

namespace Program

/-- What a document contains: the values of the attributes and the texts of the arguments. -/
def contents (root : Element) : List String :=
  root.values ++ root.elements.flatMap Instruction.contents

theorem Rejects.oneLine_or_mem_contents {root : Element} {error : LoadError}
    (h : Rejects root error) (hnamed : root.Named) :
    ∀ text ∈ error.quotes, OneLine text ∨ text ∈ contents root := by
  cases h with
  | invalidRoot _ => exact List.forall_mem_singleton.2 (.inl hnamed.name.oneLine)
  | missingLanguage _ => exact fun _ htext => nomatch htext
  | unknownLanguage found hfound _ =>
    refine List.forall_mem_singleton.2 (.inr ?_)
    exact List.mem_append_left _ (Markup.Element.mem_values_of_attribute? hfound)
  | instruction before e after instructions helements _ _ hrejected =>
    have he : e ∈ root.elements := by simp [helements]
    intro text htext
    rcases hrejected.oneLine_or_mem_contents (hnamed.elements he) text htext with hline | hmem
    · exact .inl hline
    · exact .inr (List.mem_append_right _ (List.mem_flatMap.2 ⟨e, he, hmem⟩))

end Program

/-! ## Errors of running programs -/

namespace Effect

/-- The name of the variable that an effect changes. -/
def names : Effect → List String
  | assign target _ | declare target | pop target | read target _ => [target.name]
  | _ => []

/-- An effect that fails names nothing but its variable. -/
theorem names_of_apply {m after : Machine} {e : Effect} {fault : Fault}
    (h : e.apply m = .failed fault after) : fault.names ⊆ e.names := by
  cases failsWith_of_apply h with
  | refused _ _ hrefuses =>
    cases hrefuses with
    | undefinedVariable _ v hv _ =>
      have hnames : e.names = [v.name] := by cases e <;> simp_all [target?, names]
      simp [hnames, Fault.names]
    | redefinition v => exact List.Subset.refl _
    | _ => exact List.nil_subset _
  | _ => exact List.nil_subset _

end Effect

namespace Instruction

variable {i : Instruction} {labels : LabelTable} {m after : Machine} {fault : Fault}

theorem Raises.names_subset {frames : Frames} (h : i.Raises frames fault) :
    fault.names ⊆ i.names := by
  cases h with
  | malformed _ => exact List.nil_subset _
  | unreadable v hv _ hread _ =>
    have hmem := mem_names_of_var hv
    simp only [List.mem_cons, List.not_mem_nil, or_false] at hread
    rcases hread with rfl | rfl | rfl <;> simp [Fault.names, hmem]
  | undefinedLabel name hname => simp [Fault.names, mem_names_of_label hname]
  | unsuitable _ hclass =>
    -- None of the faults with a name is in these classes.
    cases fault <;> simp [Fault.errorClass, Fault.names] at hclass ⊢

theorem Performs.names_subset {e : Effect} (h : i.Performs labels m e) : e.names ⊆ i.names := by
  cases h with
  | assign v _ _ hv | declare v _ hv | pop v _ hv | read v _ _ hv _ =>
    simpa [Effect.names] using mem_names_of_var (List.mem_of_getElem? hv)
  | _ => exact List.nil_subset _

/-- The names in a fault are those of the operands. -/
theorem names_of_failed (h : i.execute labels m = .failed fault after) :
    fault.names ⊆ i.names := by
  rcases execute_eq_failed_iff.1 h with ⟨hoperands, -⟩ | ⟨e, heffect, happly⟩
  · exact (effect_explains i labels m fault hoperands).names_subset
  · exact List.Subset.trans (Effect.names_of_apply happly) (effect_performs heffect).names_subset

end Instruction

namespace Machine

/-- A fault of a loaded program has a message of one line. -/
theorem Ends.oneLine {root : Element} {p : Program} {m after : Machine} {e : RuntimeError}
    (h : m.Ends p (some e) after) (hload : Program.ofElement root = .ok p) :
    OneLine e.message := by
  cases h with
  | failed i fault _ hfailed =>
    rcases dispatch_eq_some_iff.1 hfailed with ⟨hi, hexecute⟩
    rcases Program.exists_reads_of_mem hload (Array.mem_of_getElem? hi) with ⟨element, hreads⟩
    rw [RuntimeError.oneLine_message_iff]
    intro name hname
    exact (hreads.isName name (Instruction.names_of_failed hexecute hname)).oneLine

end Machine

/-! ## Lines of diagnostics -/

namespace CommandLine

/-- A text is one line with a line feed at its end. -/
def IsLine (text : String) : Prop :=
  ∃ line, OneLine line ∧ text = line ++ "\n"

theorem isLine_errorLine_iff (message : String) :
    IsLine (errorLine message) ↔ OneLine message := by
  have hhead : OneLine "[ ERROR ] " := oneLine_ofList.2 (by decide)
  have hline : errorLine message = ("[ ERROR ] " ++ message) ++ "\n" := rfl
  constructor
  · intro h
    rcases h with ⟨line, honeLine, hsame⟩
    rw [hline, String.append_left_inj] at hsame
    rw [← hsame, oneLine_append] at honeLine
    exact honeLine.2
  · intro h
    exact ⟨_, oneLine_append.2 ⟨hhead, h⟩, hline⟩

end CommandLine

namespace Program

/-- Which messages are one line, however texts are read, if only elements have proper names then.
The message of a document that is rejected is one line exactly if the attribute values and argument
texts that it repeats are; the message of a program that has been loaded always is, in any run and
after any number of failures.  An error is reported as one line exactly if its message is one
line. -/
theorem messages_oneLine (parse? : String → Option Element)
    (hnames : ∀ text root, parse? text = some root → root.Named) (text : String) (root : Element)
    (hroot : parse? text = some root) :
    (∀ error, ofTextBy parse? text = .error error →
      (OneLine error.message ↔
        ∀ quote ∈ error.quotes, quote ∈ contents root → OneLine quote)) ∧
      (∀ p input output diagnostics results after, ofTextBy parse? text = .ok p →
        Machine.Calls p (.initial input output diagnostics) results after →
          ∀ e, some e ∈ results → OneLine e.message) ∧
      ∀ message, CommandLine.IsLine (CommandLine.errorLine message) ↔ OneLine message := by
  rw [ofTextBy_of_parse? hroot]
  refine ⟨?_, ?_, CommandLine.isLine_errorLine_iff⟩
  · intro error herror
    have hquotes :=
      (ofElement_eq_error herror).oneLine_or_mem_contents (hnames text root hroot)
    rw [LoadError.oneLine_message_iff]
    constructor
    · intro h quote hquote _
      exact h quote hquote
    · intro h quote hquote
      rcases hquotes quote hquote with hline | hmem
      · exact hline
      · exact h quote hquote hmem
  · intro p input output diagnostics results after hload hcalls e he
    rcases hcalls.exists_ends he with ⟨last, next, -, hends⟩
    exact hends.oneLine hload

/-- A text that is no integer is repeated in the message of a document, and a variable that is not
declared is named in the message of a run; both are one line. -/
theorem messages_oneLine_undeclared :
    (∃ error, ofText ("<program language=\"IPPcode18\"><instruction order=\"1\" " ++
        "opcode=\"WRITE\"><arg1 type=\"int\">5x</arg1></instruction></program>") =
          .error error ∧
      error.quotes = ["5x", "1"] ∧ OneLine error.message) ∧
    ∃ (p : Program) (e : RuntimeError) (after : Machine),
      ofText ("<program language=\"IPPcode18\"><instruction order=\"1\" " ++
        "opcode=\"WRITE\"><arg1 type=\"var\">GF@x</arg1></instruction></program>") = .ok p ∧
      Machine.Calls p (.initial [] (.ofRoom none) (.ofRoom none)) [some e] after ∧
      e.fault.names = ["x"] ∧ OneLine e.message := by
  constructor
  · have hread : (Element.parse? ("<program language=\"IPPcode18\"><instruction order=\"1\" " ++
        "opcode=\"WRITE\"><arg1 type=\"int\">5x</arg1></instruction></program>")).map ofElement =
        some (.error (.invalidArgument "1" 1 (.malformed .int "5x"))) := by
      decide +kernel
    rcases Option.map_eq_some_iff.1 hread with ⟨root, hroot, hrejected⟩
    have herror := (ofTextBy_of_parse? hroot).trans hrejected
    have hmessages := messages_oneLine Element.parse? (fun _ _ => Element.named_parse?) _ root hroot
    refine ⟨_, herror, rfl, (hmessages.1 _ herror).2 ?_⟩
    have hquotes : ∀ quote ∈ ["5x", "1"], OneLine quote := by decide +kernel
    intro quote hquote _
    exact hquotes quote hquote
  · have hload : ofText ("<program language=\"IPPcode18\"><instruction order=\"1\" " ++
        "opcode=\"WRITE\"><arg1 type=\"var\">GF@x</arg1></instruction></program>") =
        .ok ⟨#[⟨.write, .ofInt 1, [.var ⟨.global, "x"⟩]⟩], .empty⟩ := by
      decide +kernel
    have hcalls : Machine.Calls ⟨#[⟨.write, .ofInt 1, [.var ⟨.global, "x"⟩]⟩], .empty⟩
        (.initial [] (.ofRoom none) (.ofRoom none))
        [some ⟨.undefinedVariable ⟨.global, "x"⟩, .ofInt 1⟩] _ :=
      .cons 1 rfl (.nil _)
    rcases ofTextBy_eq_ok_iff.1 hload with ⟨root, hroot, -⟩
    have hmessages := messages_oneLine Element.parse? (fun _ _ => Element.named_parse?) _ root hroot
    have honeLine := hmessages.2.1 _ _ _ _ _ _ hload hcalls _ (.head _)
    exact ⟨_, _, _, hload, hcalls, rfl, honeLine⟩

/-- A line feed in the text of an argument gets into the message as it is. -/
theorem messages_lineBreak :
    ∃ error, ofText ("<program language=\"IPPcode18\"><instruction order=\"1\" " ++
        "opcode=\"WRITE\"><arg1 type=\"int\">5\n</arg1></instruction></program>") =
          .error error ∧
      ¬ OneLine error.message ∧ ¬ CommandLine.IsLine (CommandLine.errorLine error.message) := by
  have hbroken : ¬ OneLine (LoadError.invalidArgument "1" 1 (.malformed .int "5\n")).message := by
    decide +kernel
  refine ⟨_, ?_, hbroken, fun h => hbroken ((CommandLine.isLine_errorLine_iff _).1 h)⟩
  decide +kernel

end Program

end FrameCode
