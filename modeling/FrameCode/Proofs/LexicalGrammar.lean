import FrameCode.Operand
import FrameCode.Proofs.Numerals
import FrameCode.Proofs.Resolution
import Mathlib.Data.List.Nodup
import Mathlib.Data.List.TakeDrop

/-!
# The grammar of arguments

For each type of arguments, the texts that are accepted and the operands that they stand for.  The
grammar is stated without a reading direction: a string literal is a sequence of tokens, a variable
is its own source form, a numeral is a sign and digits.

- `Text.Escape.Token`, `Text.Escape.Literal`: string literals as sequences of tokens
- `Text.IsName`: names of variables and labels
- `Operand.Spelled`: the texts of an operand, for each argument type
- `Operand.parse_eq_ok_iff`: reading an argument follows the grammar
-/

namespace FrameCode

/-! ## Tables of names -/

/-- A table without repeated names finds exactly what has a given name. -/
theorem find?_name_eq_some_iff {α : Type} {all : List α} {name : α → String}
    (hnodup : (all.map name).Nodup) {a : α} {text : String} :
    all.find? (fun a => name a == text) = some a ↔ a ∈ all ∧ name a = text := by
  constructor
  · intro h
    have hname := List.find?_some h
    exact ⟨List.mem_of_find?_eq_some h, by simpa using hname⟩
  · intro h
    rcases h with ⟨hmem, rfl⟩
    have hsome : (all.find? fun b => name b == name a).isSome = true :=
      List.find?_isSome.2 ⟨a, hmem, by simp⟩
    rcases Option.isSome_iff_exists.1 hsome with ⟨b, hb⟩
    -- What is found has the same name, and no two entries share one.
    have hname : name b = name a := by simpa using List.find?_some hb
    have hsame : b = a :=
      List.inj_on_of_nodup_map hnodup (List.mem_of_find?_eq_some hb) hmem hname
    rw [hb, hsame]

theorem Scope.ofName?_eq_some_iff {text : String} {scope : Scope} :
    ofName? text = some scope ↔ scope.name = text := by
  have hmem : scope ∈ all := by cases scope <;> decide
  unfold ofName?
  rw [find?_name_eq_some_iff (by decide)]
  simp [hmem]

theorem ArgumentType.ofName?_eq_some_iff {text : String} {given : ArgumentType} :
    ofName? text = some given ↔ given.name = text := by
  have hmem : given ∈ all := by cases given <;> decide
  unfold ofName?
  rw [find?_name_eq_some_iff (by decide)]
  simp [hmem]

theorem TypeTag.ofLiteral?_eq_some_iff {text : String} {tag : TypeTag} :
    ofLiteral? text = some tag ↔ tag ≠ .type ∧ tag.name = text := by
  have hmem : tag ∈ [int, bool, string] ↔ tag ≠ .type := by cases tag <;> decide
  unfold ofLiteral?
  rw [find?_name_eq_some_iff (by decide), hmem]

theorem Opcode.ofMnemonic?_eq_some_iff {text : String} {op : Opcode} :
    ofMnemonic? text = some op ↔ op.mnemonic = text := by
  have hmem : op ∈ all := by cases op <;> decide
  unfold ofMnemonic?
  rw [find?_name_eq_some_iff (by decide)]
  simp [hmem]

theorem Opcode.mnemonic_inj {a b : Opcode} : a.mnemonic = b.mnemonic ↔ a = b := by
  constructor
  · intro h
    have ha := ofMnemonic?_eq_some_iff.2 h
    have hb : ofMnemonic? b.mnemonic = some b := ofMnemonic?_eq_some_iff.2 rfl
    exact Option.some.inj (ha.symm.trans hb)
  · intro h
    rw [h]

/-! ## String literals -/

namespace Text
namespace Escape

/-- A token of a string literal: a plain character, or a backslash with three digits behind it. -/
inductive Token where
  | plain (c : Char) (hbackslash : c ≠ '\\') (hplain : isPlain c = true)
  | escape (a b c : Char) (ha : a.isDigit = true) (hb : b.isDigit = true) (hc : c.isDigit = true)

namespace Token

/-- How a token is written. -/
def spelling : Token → List Char
  | plain c _ _ => [c]
  | escape a b c _ _ _ => ['\\', a, b, c]

/-- The character that a token stands for. -/
def meaning : Token → Char
  | plain c _ _ => c
  | escape a b c _ _ _ => Char.ofNat (code a b c)

end Token

theorem isSequence_cons {c : Char} {rest : List Char} (hc : c ≠ '\\') :
    isSequence (c :: rest) = (isPlain c && isSequence rest) := by
  have hplain : (c != '\\') = true := bne_iff_ne.2 hc
  rw [isSequence, hplain, Bool.true_and]
  intro _ _ _ _ hbackslash
  exact absurd hbackslash hc

theorem decodeChars_cons {c : Char} {rest : List Char} (hc : c ≠ '\\') :
    decodeChars (c :: rest) = c :: decodeChars rest := by
  rw [decodeChars]
  intro _ _ _ _ hbackslash
  exact absurd hbackslash hc

/-- The sequences of plain characters and escapes are the spellings of tokens. -/
theorem isSequence_iff {text : List Char} :
    isSequence text = true ↔ ∃ tokens : List Token, text = tokens.flatMap Token.spelling := by
  constructor
  · intro h
    -- The check reads one token at a time.
    induction text using isSequence.induct with
    | case1 => exact ⟨[], rfl⟩
    | case2 a b c rest ih =>
      simp only [isSequence, Bool.and_eq_true] at h
      rcases h with ⟨⟨⟨ha, hb⟩, hc⟩, hrest⟩
      rcases ih hrest with ⟨tokens, rfl⟩
      exact ⟨.escape a b c ha hb hc :: tokens, rfl⟩
    | case3 c rest hescape ih =>
      rw [isSequence] at h
      · simp only [Bool.and_eq_true, bne_iff_ne] at h
        rcases h with ⟨⟨hbackslash, hplain⟩, hrest⟩
        rcases ih hrest with ⟨tokens, rfl⟩
        exact ⟨.plain c hbackslash hplain :: tokens, rfl⟩
      · exact hescape
  · intro h
    rcases h with ⟨tokens, rfl⟩
    induction tokens with
    | nil => rfl
    | cons token tokens ih =>
      cases token with
      | plain c hbackslash hplain =>
        change isSequence (c :: tokens.flatMap Token.spelling) = true
        rw [isSequence_cons hbackslash, hplain, ih]
        rfl
      | escape a b c ha hb hc =>
        change isSequence ('\\' :: a :: b :: c :: tokens.flatMap Token.spelling) = true
        simp [isSequence, ha, hb, hc, ih]

/-- Decoding replaces each token by its character. -/
theorem decodeChars_flatMap_spelling (tokens : List Token) :
    decodeChars (tokens.flatMap Token.spelling) = tokens.map Token.meaning := by
  induction tokens with
  | nil => rfl
  | cons token tokens ih =>
    cases token with
    | plain c hbackslash hplain =>
      change decodeChars (c :: tokens.flatMap Token.spelling) = _
      rw [decodeChars_cons hbackslash, ih]
      rfl
    | escape a b c ha hb hc =>
      change decodeChars ('\\' :: a :: b :: c :: tokens.flatMap Token.spelling) = _
      simp [decodeChars, ha, hb, hc, ih, Token.meaning]

/-- String literals with the strings that they stand for: tokens that do not end in white space. -/
def Literal (text s : String) : Prop :=
  ∃ tokens : List Token, text.toList = tokens.flatMap Token.spelling ∧
    (∀ c, text.toList.getLast? = some c → isBlank c = false) ∧
    s = .ofList (tokens.map Token.meaning)

theorem endsBlank_eq_false_iff {text : List Char} :
    endsBlank text = false ↔ ∀ c, text.getLast? = some c → isBlank c = false := by
  unfold endsBlank
  cases text.getLast? <;> simp

end Escape

/-! ## Names -/

/-- A name of a variable or label. -/
def IsName (text : String) : Prop :=
  text.toList ≠ [] ∧ ∀ c ∈ text.toList, isIdentifierChar c = true

theorem isIdentifier_iff {text : String} : isIdentifier text = true ↔ IsName text := by
  unfold isIdentifier IsName
  simp

end Text

/-- A text is read as a variable exactly if it is the source form of it. -/
theorem Variable.parse?_eq_some_iff {text : String} {v : Variable} :
    parse? text = some v ↔ text = v.render ∧ Text.IsName v.name := by
  unfold parse?
  rw [List.span_eq_takeWhile_dropWhile]
  constructor
  · intro h
    split at h
    next frame name hspan =>
      split at h
      next scope hscope =>
        split at h
        next hname =>
          cases h
          refine ⟨?_, Text.isIdentifier_iff.1 hname⟩
          have hframe : scope.name = .ofList frame := Scope.ofName?_eq_some_iff.1 hscope
          -- What stands before the first `@` and behind it make up the text again.
          have hsplit : text.toList = frame ++ '@' :: name := by
            rw [← (Prod.mk.inj hspan).1, ← (Prod.mk.inj hspan).2, List.takeWhile_append_dropWhile]
          apply String.toList_injective
          simp [render, hframe, hsplit]
        next => cases h
      next => cases h
    next => cases h
  · intro h
    rcases h with ⟨rfl, hname⟩
    rcases v with ⟨scope, name⟩
    have htext : (render ⟨scope, name⟩).toList = scope.name.toList ++ '@' :: name.toList := by
      simp [render]
    -- The name of a frame has no `@`, so the first one ends it.
    have hframe : ∀ c ∈ scope.name.toList, decide (c ≠ '@') = true := by
      cases scope <;> simp [Scope.name]
    rw [htext, List.takeWhile_append_of_pos hframe, List.dropWhile_append_of_pos hframe]
    have hscope : Scope.ofName? scope.name = some scope := Scope.ofName?_eq_some_iff.2 rfl
    simp [hscope, Text.isIdentifier_iff.2 hname]

/-! ## Literals -/

namespace Value

theorem parseBool_eq_ok_iff {text : String} {b : Bool} :
    parseBool text = .ok b ↔ text = boolText b := by
  unfold parseBool
  split
  next htrue =>
    subst htrue
    cases b <;> simp [boolText]
  next htrue =>
    split
    next hfalse =>
      subst hfalse
      cases b <;> simp [boolText]
    next hfalse => cases b <;> simp [boolText, htrue, hfalse]

theorem parseString_eq_ok_iff {text s : String} :
    parseString text = .ok s ↔ Text.Escape.Literal text s := by
  unfold parseString Text.Escape.isLiteral Text.Escape.Literal Text.Escape.decode
  simp only [← Text.Escape.endsBlank_eq_false_iff]
  constructor
  · intro h
    split at h
    next hliteral =>
      cases h
      simp only [Bool.and_eq_true, Bool.not_eq_true'] at hliteral
      -- The text that has been checked is a sequence of tokens, and decoding follows them.
      rcases Text.Escape.isSequence_iff.1 hliteral.2 with ⟨tokens, htokens⟩
      refine ⟨tokens, htokens, hliteral.1, ?_⟩
      rw [htokens, Text.Escape.decodeChars_flatMap_spelling]
    next => cases h
  · intro h
    rcases h with ⟨tokens, htokens, hend, rfl⟩
    have hsequence := Text.Escape.isSequence_iff.2 ⟨tokens, htokens⟩
    rw [if_pos (by simp [hend, hsequence]), htokens, Text.Escape.decodeChars_flatMap_spelling]

theorem parseType_eq_ok_iff {text : String} {tag : TypeTag} :
    parseType text = .ok tag ↔ tag ≠ .type ∧ text = tag.name := by
  have hliteral := @TypeTag.ofLiteral?_eq_some_iff text tag
  unfold parseType
  cases hfound : TypeTag.ofLiteral? text <;> simp_all [eq_comm]

end Value

/-! ## Operands -/

namespace Operand

/-- The texts that an argument type accepts, with the operands that they stand for. -/
inductive Spelled : ArgumentType → String → Operand → Prop
  | var (v : Variable) (hname : Text.IsName v.name) : Spelled .var v.render (.var v)
  | label (name : String) (hname : Text.IsName name) : Spelled .label name (.label name)
  | int (text : String) (n : Word) (hnumeral : Numeral.Denotes text.toList n.toInt) :
      Spelled .int text (.literal (.int n))
  | bool (b : Bool) : Spelled .bool (Value.boolText b) (.literal (.bool b))
  | string (text s : String) (hliteral : Text.Escape.Literal text s) :
      Spelled .string text (.literal (.string s))
  | type (tag : TypeTag) (htag : tag ≠ .type) : Spelled .type tag.name (.literal (.type tag))

/-- An argument of a type becomes an operand of that type. -/
theorem Spelled.argumentType {given : ArgumentType} {text : String} {o : Operand}
    (h : Spelled given text o) : o.argumentType = given := by
  cases h <;> rfl

theorem Spelled.eq_label {text : String} {o : Operand} (h : Spelled .label text o) :
    o = .label text := by
  cases h
  rfl

theorem parseVariable_eq_ok_iff {text : String} {v : Variable} :
    parseVariable text = .ok v ↔ text = v.render ∧ Text.IsName v.name := by
  rw [← Variable.parse?_eq_some_iff]
  unfold parseVariable
  cases Variable.parse? text <;> simp

theorem parseLabel_eq_ok_iff {text name : String} :
    parseLabel text = .ok name ↔ text = name ∧ Text.IsName name := by
  rw [← Text.isIdentifier_iff]
  unfold parseLabel
  constructor
  · intro h
    split at h
    next hname =>
      cases h
      exact ⟨rfl, hname⟩
    next => cases h
  · intro h
    rcases h with ⟨rfl, hname⟩
    exact if_pos hname

/-- Reading an argument of a type gives exactly the operand that its text stands for. -/
theorem parse_eq_ok_iff {given : ArgumentType} {text : String} {o : Operand} :
    parse given text = .ok o ↔ Spelled given text o := by
  constructor
  · intro h
    cases given with
    | var =>
      simp only [parse, map_eq_ok_iff, parseVariable_eq_ok_iff] at h
      rcases h with ⟨v, ⟨rfl, hname⟩, rfl⟩
      exact .var v hname
    | label =>
      simp only [parse, map_eq_ok_iff, parseLabel_eq_ok_iff] at h
      rcases h with ⟨name, ⟨rfl, hname⟩, rfl⟩
      exact .label _ hname
    | int =>
      simp only [parse, Value.parse, map_eq_ok_iff, Word.parse_eq_ok_iff] at h
      rcases h with ⟨_, ⟨n, hn, rfl⟩, rfl⟩
      exact .int text n hn
    | bool =>
      simp only [parse, Value.parse, map_eq_ok_iff, Value.parseBool_eq_ok_iff] at h
      rcases h with ⟨_, ⟨b, rfl, rfl⟩, rfl⟩
      exact .bool b
    | string =>
      simp only [parse, Value.parse, map_eq_ok_iff, Value.parseString_eq_ok_iff] at h
      rcases h with ⟨_, ⟨s, hs, rfl⟩, rfl⟩
      exact .string text s hs
    | type =>
      simp only [parse, Value.parse, map_eq_ok_iff, Value.parseType_eq_ok_iff] at h
      rcases h with ⟨_, ⟨tag, ⟨htag, rfl⟩, rfl⟩, rfl⟩
      exact .type tag htag
  · intro h
    cases h with
    | var v hname => exact map_eq_ok_iff.2 ⟨v, parseVariable_eq_ok_iff.2 ⟨rfl, hname⟩, rfl⟩
    | label name hname => exact map_eq_ok_iff.2 ⟨text, parseLabel_eq_ok_iff.2 ⟨rfl, hname⟩, rfl⟩
    | int text n hn =>
      have hvalue : Value.parse .int text = .ok (.int n) :=
        map_eq_ok_iff.2 ⟨n, Word.parse_eq_ok_iff.2 hn, rfl⟩
      exact map_eq_ok_iff.2 ⟨.int n, hvalue, rfl⟩
    | bool b =>
      have hvalue : Value.parse .bool (Value.boolText b) = .ok (.bool b) :=
        map_eq_ok_iff.2 ⟨b, Value.parseBool_eq_ok_iff.2 rfl, rfl⟩
      exact map_eq_ok_iff.2 ⟨.bool b, hvalue, rfl⟩
    | string text s hs =>
      have hvalue : Value.parse .string text = .ok (.string s) :=
        map_eq_ok_iff.2 ⟨s, Value.parseString_eq_ok_iff.2 hs, rfl⟩
      exact map_eq_ok_iff.2 ⟨.string s, hvalue, rfl⟩
    | type tag htag =>
      have hvalue : Value.parse .type tag.name = .ok (.type tag) :=
        map_eq_ok_iff.2 ⟨tag, Value.parseType_eq_ok_iff.2 ⟨htag, rfl⟩, rfl⟩
      exact map_eq_ok_iff.2 ⟨.type tag, hvalue, rfl⟩

end Operand

end FrameCode
