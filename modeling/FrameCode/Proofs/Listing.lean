import FrameCode.Proofs.Arrangement
import FrameCode.Proofs.MessageLines
import FrameCode.Proofs.Unspaced

/-!
# Listings

The listing of a loaded program tells the whole program.  Its lines can be told apart because no
part of a line breaks it; the order of an instruction ends at the bracket behind it; and the words
of an instruction have no white space.  A word by itself can stand for different operands, but not
at one position of one opcode.

- `Text.cut_unique`, `Text.intercalate_unique`: texts that are put together in one way only
- `Operand.Spelled.eq_of_render_eq`, `Operand.argumentType_eq_of_render_eq`: operands by their words
- `Instruction.Reads.eq_of_render_eq`, `Instruction.Reads.eq_of_listing_eq`: instructions by their
  source forms and by their lines
- `Program.listing_faithful`: programs by their listings
-/

namespace FrameCode

open Text (OneLine Unspaced oneLine_append)
open CommandLine (IsLine)

/-! ## Texts that are put together -/

namespace Text

/-- What stands before the first one of some mark, and what stands behind it, can be told apart. -/
theorem cut_unique {mark : Char} {a b c d : List Char} (ha : mark ∉ a) (hb : mark ∉ b)
    (h : a ++ mark :: c = b ++ mark :: d) : a = b ∧ c = d := by
  induction a generalizing b with
  | nil =>
    cases b with
    | nil => exact ⟨rfl, (List.cons.inj h).2⟩
    | cons x b => exact absurd (List.cons.inj h).1 (fun hx => hb (by simp [hx]))
  | cons x a ih =>
    cases b with
    | nil => exact absurd (List.cons.inj h).1.symm (fun hx => ha (by simp [hx]))
    | cons y b =>
      rcases List.cons.inj h with ⟨rfl, hrest⟩
      rcases ih (List.not_mem_of_not_mem_cons ha) (List.not_mem_of_not_mem_cons hb) hrest with
        ⟨rfl, hafter⟩
      exact ⟨rfl, hafter⟩

/-- Words without white space can be told apart if there are spaces between them. -/
theorem intercalate_unique {words others : List String} (hwords : ∀ word ∈ words, Unspaced word)
    (hothers : ∀ word ∈ others, Unspaced word) (hne : words ≠ []) (hne' : others ≠ [])
    (h : " ".intercalate words = " ".intercalate others) : words = others := by
  have hsplit : ∀ words : List String, (∀ word ∈ words, Unspaced word) → words ≠ [] →
      List.splitOn ' ' (" ".intercalate words).toList = words.map String.toList := by
    intro words hwords hne
    rw [String.toList_intercalate]
    refine List.splitOn_intercalate ' ' ?_ (by simpa using hne)
    intro chars hchars
    rcases List.mem_map.1 hchars with ⟨word, hword, rfl⟩
    exact (hwords word hword).not_mem (by decide)
  have hlists : words.map String.toList = others.map String.toList := by
    rw [← hsplit words hwords hne, ← hsplit others hothers hne', h]
  exact (List.map_inj_right fun _ _ => String.toList_injective).1 hlists

theorem Unspaced.oneLine {text : String} (h : Unspaced text) : OneLine text :=
  ⟨h.not_mem (by decide), h.not_mem (by decide)⟩

theorem oneLine_intercalate {words : List String} (h : ∀ word ∈ words, OneLine word) :
    OneLine (" ".intercalate words) := by
  induction words with
  | nil => decide
  | cons word words ih =>
    rcases List.forall_mem_cons.1 h with ⟨hword, hwords⟩
    cases words with
    | nil => simpa using hword
    | cons next words =>
      rw [String.intercalate_cons_cons, oneLine_append, oneLine_append]
      exact ⟨⟨hword, by decide⟩, ih hwords⟩

end Text

/-! ## Numerals -/

theorem Word.eq_of_render_eq {a b : Word} (h : a.render = b.render) : a = b := by
  have ha : Numeral.Denotes a.render.toList a.toInt := denotes_render a
  have hb : Numeral.Denotes b.render.toList b.toInt := denotes_render b
  exact Int64.toInt_inj.1 (ha.unique (h ▸ hb))

/-! ## Operands -/

namespace Operand

/-- Operands of one type are told apart by their source forms. -/
theorem Spelled.eq_of_render_eq {given : ArgumentType} {text other : String} {a b : Operand}
    (ha : Spelled given text a) (hb : Spelled given other b) (h : a.render = b.render) : a = b := by
  cases ha with
  | var v hv =>
    cases hb with
    | var w hw =>
      have hparse := Variable.parse?_eq_some_iff.2 ⟨rfl, hv⟩
      have hparse' := Variable.parse?_eq_some_iff.2 ⟨h, hw⟩
      exact congrArg Operand.var (Option.some.inj (hparse.symm.trans hparse'))
  | label name _ =>
    cases hb with
    | label other _ => exact congrArg Operand.label h
  | int _ n _ =>
    cases hb with
    | int _ k _ =>
      have hdigits : n.render = k.render := (String.append_right_inj "int@").1 h
      rw [Word.eq_of_render_eq hdigits]
  | bool b =>
    cases hb with
    | bool c =>
      have hwords : Value.boolText b = Value.boolText c := (String.append_right_inj "bool@").1 h
      have hsame := Value.parseBool_eq_ok_iff.2 hwords
      rw [Value.parseBool_eq_ok_iff.2 rfl] at hsame
      rw [Except.ok.inj hsame]
  | string _ s _ =>
    cases hb with
    | string _ t _ =>
      have hencoded : Text.Escape.encode s = Text.Escape.encode t :=
        (String.append_right_inj "string@").1 h
      have hdecoded := congrArg Text.Escape.decode hencoded
      rw [Text.Escape.decode_encode, Text.Escape.decode_encode] at hdecoded
      rw [hdecoded]
  | type tag htag =>
    cases hb with
    | type tag' htag' =>
      have hname : tag.name = tag'.name := h
      have hfound := TypeTag.ofLiteral?_eq_some_iff.2 ⟨htag, hname⟩
      rw [TypeTag.ofLiteral?_eq_some_iff.2 ⟨htag', rfl⟩] at hfound
      rw [Option.some.inj hfound]

/-- What stands before the at sign in the source form of a variable, integer, truth value or
string. -/
def head : Operand → String
  | var v => v.scope.name
  | literal value => value.tag.name
  | label _ => ""

/-- The argument types whose source forms have an at sign. -/
def marked : List ArgumentType :=
  [.var, .int, .bool, .string]

theorem not_mem_head (o : Operand) : '@' ∉ o.head.toList := by
  rcases o with ⟨scope, name⟩ | value | name
  · cases scope <;> simp [head, Scope.name]
  · cases value <;> simp [head, Value.tag, TypeTag.name]
  · simp [head]

theorem exists_render_eq {o : Operand} (h : o.argumentType ∈ marked) :
    ∃ body, o.render.toList = o.head.toList ++ '@' :: body := by
  rcases o with v | (n | b | s | tag) | name
  · exact ⟨v.name.toList, by simp [render, Variable.render, head]⟩
  · exact ⟨n.render.toList, by simp [render, renderLiteral, head, Value.tag, TypeTag.name]⟩
  · exact ⟨(Value.boolText b).toList,
      by simp [render, renderLiteral, head, Value.tag, TypeTag.name]⟩
  · exact ⟨(Text.Escape.encode s).toList,
      by simp [render, renderLiteral, head, Value.tag, TypeTag.name]⟩
  · simp [marked, argumentType] at h
  · simp [marked, argumentType] at h

/-- What stands before the at sign tells the type: a frame does not have the name of a type. -/
theorem ofName?_head {o : Operand} (h : o.argumentType ∈ marked) :
    (ArgumentType.ofName? o.head).getD .var = o.argumentType := by
  rcases o with ⟨scope, name⟩ | (n | b | s | tag) | name
  · cases scope <;> rfl
  · rfl
  · rfl
  · rfl
  · simp [marked, argumentType] at h
  · simp [marked, argumentType] at h

/-- At one position, the source form of an operand tells its type: labels and type names have
positions of their own, and at all others there is an at sign behind the frame or the type. -/
theorem argumentType_eq_of_render_eq {kind : OperandKind} {a b : Operand}
    (ha : kind.accepts a.argumentType = true) (hb : kind.accepts b.argumentType = true)
    (h : a.render = b.render) : a.argumentType = b.argumentType := by
  -- Either only one type is accepted, or all that are have an at sign.
  have hkinds : (∃ given, kind.accepted = [given]) ∨ kind.accepted ⊆ marked := by
    cases kind with
    | var | label | type => exact .inl ⟨_, rfl⟩
    | symbol | int | bool | string => exact .inr (by decide)
  have hmem : a.argumentType ∈ kind.accepted := by simpa [OperandKind.accepts] using ha
  have hmem' : b.argumentType ∈ kind.accepted := by simpa [OperandKind.accepts] using hb
  rcases hkinds with ⟨given, hgiven⟩ | hmarked
  · rw [hgiven] at hmem hmem'
    exact (List.mem_singleton.1 hmem).trans (List.mem_singleton.1 hmem').symm
  · rcases exists_render_eq (hmarked hmem) with ⟨body, hbody⟩
    rcases exists_render_eq (hmarked hmem') with ⟨body', hbody'⟩
    have hsame : a.head.toList ++ '@' :: body = b.head.toList ++ '@' :: body' := by
      rw [← hbody, ← hbody', h]
    have hhead : a.head = b.head :=
      String.toList_injective (Text.cut_unique a.not_mem_head b.not_mem_head hsame).1
    calc
      a.argumentType = (ArgumentType.ofName? a.head).getD .var := (ofName?_head (hmarked hmem)).symm
      _ = (ArgumentType.ofName? b.head).getD .var := by rw [hhead]
      _ = b.argumentType := ofName?_head (hmarked hmem')

/-- At one position, operands that have been read are told apart by their source forms. -/
theorem eq_of_render_eq {kind : OperandKind} {a b : Operand}
    (ha : kind.accepts a.argumentType = true) (hb : kind.accepts b.argumentType = true)
    (hspelled : ∃ given text, Spelled given text a) (hspelled' : ∃ given text, Spelled given text b)
    (h : a.render = b.render) : a = b := by
  rcases hspelled with ⟨given, text, hspelled⟩
  rcases hspelled' with ⟨given', text', hspelled'⟩
  have htypes := argumentType_eq_of_render_eq ha hb h
  rw [hspelled.argumentType, hspelled'.argumentType] at htypes
  -- Now both have been read from arguments of one type.
  subst htypes
  exact hspelled.eq_of_render_eq hspelled' h

theorem eq_of_map_render_eq {kinds : List OperandKind} {as bs : List Operand}
    (ha : List.Forall₂ (fun kind o => kind.accepts (argumentType o) = true) kinds as)
    (hb : List.Forall₂ (fun kind o => kind.accepts (argumentType o) = true) kinds bs)
    (hspelled : ∀ o ∈ as, ∃ given text, Spelled given text o)
    (hspelled' : ∀ o ∈ bs, ∃ given text, Spelled given text o)
    (h : as.map render = bs.map render) : as = bs := by
  induction ha generalizing bs with
  | nil =>
    cases hb
    rfl
  | cons hfirst _ ih =>
    cases hb with
    | cons hfirst' hrest' =>
      rcases List.forall_mem_cons.1 hspelled with ⟨hword, hspelled⟩
      rcases List.forall_mem_cons.1 hspelled' with ⟨hword', hspelled'⟩
      rcases List.cons.inj h with ⟨hsame, hrest⟩
      rw [eq_of_render_eq hfirst hfirst' hword hword' hsame, ih hrest' hspelled hspelled' hrest]

end Operand

/-! ## Instructions -/

namespace Instruction

variable {e e' : Markup.Element} {i j : Instruction} {position : Nat}

/-- The words of an instruction have no white space. -/
theorem Reads.unspaced (h : Reads e i) :
    ∀ word ∈ i.opcode.mnemonic :: i.operands.map Operand.render, Unspaced word := by
  refine List.forall_mem_cons.2 ⟨i.opcode.unspaced_mnemonic, ?_⟩
  intro word hword
  rcases List.mem_map.1 hword with ⟨o, ho, rfl⟩
  rcases h.exists_spelled ho with ⟨given, text, hspelled⟩
  exact hspelled.unspaced_render

/-- Instructions are told apart by their source forms, but for their orders. -/
theorem Reads.eq_of_render_eq (hi : Reads e i) (hj : Reads e' j) (h : i.render = j.render) :
    i.opcode = j.opcode ∧ i.operands = j.operands := by
  have hwords := Text.intercalate_unique hi.unspaced hj.unspaced (by simp) (by simp) h
  rcases List.cons.inj hwords with ⟨hmnemonic, hrest⟩
  have hop : i.opcode = j.opcode := Opcode.mnemonic_inj.1 hmnemonic
  have hfits : List.Forall₂ (fun kind o => kind.accepts (Operand.argumentType o) = true)
      i.opcode.signature j.operands := hop ▸ hj.fits
  exact ⟨hop, Operand.eq_of_map_render_eq hi.fits hfits (fun _ => hi.exists_spelled)
    (fun _ => hj.exists_spelled) hrest⟩

end Instruction

namespace Program

variable {e e' : Markup.Element} {i j : Instruction}

/-- The line of an instruction without the line feed at its end. -/
def listingText (position : Nat) (i : Instruction) : String :=
  padLeft 4 (toString position) ++ "  [" ++ i.order.render ++ "]  " ++ i.render

theorem listingLine_eq (position : Nat) (i : Instruction) :
    listingLine position i = listingText position i ++ "\n" :=
  rfl

theorem oneLine_listingText (position : Nat) (h : Instruction.Reads e i) :
    OneLine (listingText position i) := by
  have hspaces : OneLine (.ofList (List.replicate (4 - (toString position).length) ' ')) := by
    simp [Text.oneLine_ofList]
  have hposition : OneLine (padLeft 4 (toString position)) :=
    oneLine_append.2 ⟨hspaces, Text.oneLine_natural position⟩
  have hinstruction : OneLine i.render :=
    Text.oneLine_intercalate fun word hword => (h.unspaced word hword).oneLine
  simp only [listingText, oneLine_append]
  exact ⟨⟨⟨⟨hposition, by decide⟩, i.order.oneLine_render⟩, by decide⟩, hinstruction⟩

/-- An instruction is told by its line: the order ends at the first closing bracket. -/
theorem eq_of_listingText_eq {position : Nat} (hi : Instruction.Reads e i)
    (hj : Instruction.Reads e' j) (h : listingText position i = listingText position j) :
    i = j := by
  have hfree : ∀ order : Order, ']' ∉ order.render.toList := by
    intro order hmem
    rcases Numeral.isDigit_or_minus_of_mem_render hmem with hdigit | hminus
    · exact absurd hdigit (by decide)
    · exact absurd hminus (by decide)
  -- Both begin with the same position, which takes the same number of columns.
  have hchars : i.order.render.toList ++ ']' :: "  ".toList ++ i.render.toList =
      j.order.render.toList ++ ']' :: "  ".toList ++ j.render.toList := by
    simpa [listingText] using congrArg String.toList h
  rw [List.append_assoc, List.append_assoc] at hchars
  rcases Text.cut_unique (hfree i.order) (hfree j.order) hchars with ⟨horder, hrest⟩
  have hrender : i.render = j.render := String.toList_injective (by simpa using hrest)
  rcases hi.eq_of_render_eq hj hrender with ⟨hop, hoperands⟩
  have horders : i.order = j.order := Order.eq_of_render_eq (String.toList_injective horder)
  cases i
  cases j
  cases hop
  cases horders
  cases hoperands
  rfl

/-- The lines of some instructions, which are counted from a given position. -/
def listingLines (position : Nat) (instructions : List Instruction) : List String :=
  (instructions.zipIdx position).map fun (i, position) => listingLine position i

theorem listingLines_cons (position : Nat) (i : Instruction) (later : List Instruction) :
    listingLines position (i :: later) =
      listingLine position i :: listingLines (position + 1) later :=
  rfl

theorem listing_eq (p : Program) : p.listing = .join (listingLines 0 p.instructions.toList) :=
  rfl

/-- Instructions are told by their lines: each line ends at the first line feed. -/
theorem eq_of_join_listingLines_eq {position : Nat} {as bs : List Instruction}
    (ha : ∀ i ∈ as, ∃ e, Instruction.Reads e i) (hb : ∀ i ∈ bs, ∃ e, Instruction.Reads e i)
    (h : String.join (listingLines position as) = String.join (listingLines position bs)) :
    as = bs := by
  have hchars : ∀ position i later, (String.join (listingLines position (i :: later))).toList =
      (listingText position i).toList ++
        '\n' :: (String.join (listingLines (position + 1) later)).toList := by
    intro position i later
    simp [listingLines_cons, String.join_cons, listingLine_eq]
  -- Both lists are taken line by line, at the same positions.
  induction as generalizing bs position with
  | nil =>
    cases bs with
    | nil => rfl
    | cons j bs =>
      have hempty := congrArg String.toList h
      rw [hchars] at hempty
      simp [listingLines] at hempty
  | cons i as ih =>
    cases bs with
    | nil =>
      have hempty := congrArg String.toList h
      rw [hchars] at hempty
      simp [listingLines] at hempty
    | cons j bs =>
      rcases List.forall_mem_cons.1 ha with ⟨⟨e, hi⟩, ha⟩
      rcases List.forall_mem_cons.1 hb with ⟨⟨e', hj⟩, hb⟩
      have hlists := congrArg String.toList h
      rw [hchars, hchars] at hlists
      rcases Text.cut_unique (oneLine_listingText position hi).1 (oneLine_listingText position hj).1
        hlists with ⟨hline, hrest⟩
      rw [eq_of_listingText_eq hi hj (String.toList_injective hline),
        ih ha hb (String.toList_injective hrest)]

/-- A program is determined by its instructions in sequence. -/
theorem ofInstructions_eq_of_instructions_eq {as bs : List Instruction}
    (h : (ofInstructions as).instructions.toList = (ofInstructions bs).instructions.toList) :
    ofInstructions as = ofInstructions bs := by
  have hsorted : sort as = sort bs := h
  simp only [ofInstructions, hsorted]

/-- Loaded programs with the same listing are the same program, and a listing has one line for each
instruction, however the texts of the programs have been read. -/
theorem listing_faithful (parse? : String → Option Markup.Element) (text other : String)
    (p q : Program) (hp : ofTextBy parse? text = .ok p) (hq : ofTextBy parse? other = .ok q) :
    (p.listing = q.listing → p = q) ∧
      ∃ lines, lines.length = p.size ∧ p.listing = .join lines ∧ ∀ line ∈ lines, IsLine line := by
  rcases ofTextBy_eq_ok_iff.1 hp with ⟨root, -, hroot⟩
  rcases ofTextBy_eq_ok_iff.1 hq with ⟨root', -, hroot'⟩
  have hreads : ∀ i ∈ p.instructions.toList, ∃ e, Instruction.Reads e i :=
    fun i hi => exists_reads_of_mem hroot (Array.mem_toList_iff.1 hi)
  have hreads' : ∀ i ∈ q.instructions.toList, ∃ e, Instruction.Reads e i :=
    fun i hi => exists_reads_of_mem hroot' (Array.mem_toList_iff.1 hi)
  constructor
  · intro h
    -- The labels follow from the instructions, so these are all that there is to compare.
    have hsame := eq_of_join_listingLines_eq hreads hreads' h
    rcases ofElement_eq_ok_iff.1 hroot with ⟨-, as, -, -, rfl⟩
    rcases ofElement_eq_ok_iff.1 hroot' with ⟨-, bs, -, -, rfl⟩
    exact ofInstructions_eq_of_instructions_eq hsame
  · refine ⟨listingLines 0 p.instructions.toList, by simp [listingLines, size], p.listing_eq, ?_⟩
    intro line hline
    rcases List.mem_map.1 hline with ⟨⟨i, position⟩, hmem, rfl⟩
    rcases hreads i (List.fst_mem_of_mem_zipIdx hmem) with ⟨e, hi⟩
    exact ⟨listingText position i, oneLine_listingText position hi, listingLine_eq position i⟩

/-- A space and its escape are listed in the same way, and they are the same program. -/
theorem listing_faithful_escape :
    ∃ p q, ofText ("<program language=\"IPPcode18\"><instruction order=\"1\" " ++
        "opcode=\"WRITE\"><arg1 type=\"string\">a b</arg1></instruction></program>") = .ok p ∧
      ofText ("<program language=\"IPPcode18\"><instruction order=\"+1\" " ++
        "opcode=\"WRITE\"><arg1 type=\"string\">a\\032b</arg1></instruction></program>") = .ok q ∧
      p.listing = "   0  [1]  WRITE string@a\\032b\n" ∧ p = q := by
  have hp : ofText ("<program language=\"IPPcode18\"><instruction order=\"1\" " ++
      "opcode=\"WRITE\"><arg1 type=\"string\">a b</arg1></instruction></program>") =
        .ok (ofInstructions [⟨.write, .ofInt 1, [.literal (.string "a b")]⟩]) :=
    ofText_eq_ok_of_reads _ (by decide +kernel)
  have hq : ofText ("<program language=\"IPPcode18\"><instruction order=\"+1\" " ++
      "opcode=\"WRITE\"><arg1 type=\"string\">a\\032b</arg1></instruction></program>") =
        .ok (ofInstructions [⟨.write, .ofInt 1, [.literal (.string "a b")]⟩]) :=
    ofText_eq_ok_of_reads _ (by decide +kernel)
  refine ⟨_, _, hp, hq, by decide +kernel, (listing_faithful _ _ _ _ _ hp hq).1 rfl⟩

end Program

end FrameCode
