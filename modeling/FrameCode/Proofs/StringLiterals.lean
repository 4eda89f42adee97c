import FrameCode.Proofs.SourceForm

/-!
# String literals and their tokens

A string literal is checked by one function and decoded by another, and encoded texts are written by
a third.  All of them see the same tokens, because a text can be cut into tokens in one way only.

- `Text.Escape.Token.StandsFor`: the character of a token, by its code point
- `Text.Escape.Token.eq_of_flatMap_spelling_eq`: a text has one sequence of tokens
- `Value.parse_string_exact`: string literals and what they stand for
- `Text.Escape.encode_exact`: what is written is decoded to the same text, and when it is a literal
-/

namespace FrameCode

namespace Text
namespace Escape

/-! ## Tokens -/

namespace Token

/-- A plain character stands for itself, and an escape for the character whose code point its digits
denote. -/
inductive StandsFor : Token → Char → Prop
  | plain (c : Char) (hbackslash : c ≠ '\\') (hplain : isPlain c = true) :
      StandsFor (plain c hbackslash hplain) c
  | escape (a b c : Char) (ha : a.isDigit = true) (hb : b.isDigit = true) (hc : c.isDigit = true)
      (d : Char) (hcode : d.toNat = Numeral.magnitude [a, b, c]) :
      StandsFor (escape a b c ha hb hc) d

theorem standsFor_iff {token : Token} {c : Char} : token.StandsFor c ↔ token.meaning = c := by
  constructor
  · intro h
    cases h with
    | plain => rfl
    | escape a b d _ _ _ _ hcode =>
      change Char.ofNat (code a b d) = c
      rw [code_eq_magnitude, ← hcode, Char.ofNat_toNat]
  · intro h
    subst h
    cases token with
    | plain c hbackslash hplain => exact .plain c hbackslash hplain
    | escape a b c ha hb hc => exact .escape a b c ha hb hc _ (toNat_ofNat_code ha hb hc)

/-- Where a token ends is decided by its first character. -/
theorem spelling_append_inj {s t : Token} {rest others : List Char}
    (h : s.spelling ++ rest = t.spelling ++ others) : s = t ∧ rest = others := by
  -- A plain character is no backslash, and an escape begins with one, so that the mixed cases
  -- are excluded by the first characters alone.
  cases s with
  | plain c hbackslash hplain =>
    cases t with
    | plain d _ _ =>
      simp only [spelling, List.cons_append, List.nil_append, List.cons.injEq] at h
      rcases h with ⟨rfl, hrest⟩
      exact ⟨rfl, hrest⟩
    | escape a b d _ _ _ => exact absurd (List.cons.inj h).1 hbackslash
  | escape a b c _ _ _ =>
    cases t with
    | plain d hbackslash _ => exact absurd (List.cons.inj h).1.symm hbackslash
    | escape a' b' c' _ _ _ =>
      simp only [spelling, List.cons_append, List.nil_append, List.cons.injEq, true_and] at h
      rcases h with ⟨rfl, rfl, rfl, hrest⟩
      exact ⟨rfl, hrest⟩

theorem spelling_ne_nil (token : Token) : token.spelling ≠ [] := by
  cases token <;> simp [spelling]

/-- A text can be cut into tokens in one way only. -/
theorem eq_of_flatMap_spelling_eq {tokens others : List Token}
    (h : tokens.flatMap spelling = others.flatMap spelling) : tokens = others := by
  -- The first tokens are the same and so is what is behind them, where the hypothesis applies.
  induction tokens generalizing others with
  | nil =>
    cases others with
    | nil => rfl
    | cons other others =>
      have hempty := (List.append_eq_nil_iff.1 h.symm).1
      exact absurd hempty other.spelling_ne_nil
  | cons token tokens ih =>
    cases others with
    | nil => exact absurd (List.append_eq_nil_iff.1 h).1 token.spelling_ne_nil
    | cons other others =>
      rcases spelling_append_inj h with ⟨rfl, hrest⟩
      rw [ih hrest]

/-- Only the escape of its code point stands for a backslash. -/
theorem standsFor_backslash_iff {token : Token} :
    token.StandsFor '\\' ↔ token.spelling = ['\\', '0', '9', '2'] := by
  constructor
  · intro h
    cases h with
    | plain _ hbackslash _ => exact absurd rfl hbackslash
    | escape a b c ha hb hc _ hcode =>
      -- Three digits are determined by the number that they denote, here 92.
      have hdigits : [a, b, c] = ['0', '9', '2'] :=
        Numeral.eq_of_magnitude_eq (by simp [ha, hb, hc]) (List.all_eq_true.1 rfl) rfl hcode.symm
      rw [spelling, hdigits]
  · intro h
    cases token with
    | plain c _ _ => cases h
    | escape a b c ha hb hc =>
      have hdigits : [a, b, c] = ['0', '9', '2'] := (List.cons.inj h).2
      refine .escape a b c ha hb hc _ ?_
      rw [hdigits]
      rfl

/-- Tokens stand for a text exactly if it is made of their meanings. -/
theorem forall₂_standsFor_iff {tokens : List Token} {text : List Char} :
    List.Forall₂ StandsFor tokens text ↔ tokens.map meaning = text := by
  have hmap := @List.forall₂_map_left_iff _ _ _ Eq meaning tokens text
  rw [List.forall₂_eq_eq_eq] at hmap
  rw [hmap]
  simp only [← standsFor_iff]

end Token

/-! ## Writing -/

/-- The characters that are written as tokens.  Backslashes and number signs are among those that
are escaped, and they are printable anyway. -/
theorem escaped_or_plain_eq_true_iff {c : Char} :
    (isEscaped c || isPlain c) = true ↔
      isAlphanumeric c = true ∨ c = '_' ∨ (' ' ≤ c ∧ c ≤ '~') ∨
        (c.toNat ≤ 999 ∧ (isBlank c = true ∨ isControl c = true)) := by
  simp only [isEscaped, isPlain, Bool.or_eq_true, Bool.and_eq_true, decide_eq_true_eq, beq_iff_eq]
  constructor
  · intro h
    rcases h with ⟨hcode, ((rfl | rfl) | hblank) | hcontrol⟩ |
      (halphanumeric | hunderscore) | hascii
    · exact .inr (.inr (.inl (by decide)))
    · exact .inr (.inr (.inl (by decide)))
    · exact .inr (.inr (.inr ⟨hcode, .inl hblank⟩))
    · exact .inr (.inr (.inr ⟨hcode, .inr hcontrol⟩))
    · exact .inl halphanumeric
    · exact .inr (.inl hunderscore)
    · exact .inr (.inr (.inl hascii))
  · intro h
    rcases h with halphanumeric | hunderscore | hascii | ⟨hcode, hblank | hcontrol⟩
    · exact .inr (.inl (.inl halphanumeric))
    · exact .inr (.inl (.inr hunderscore))
    · exact .inr (.inr hascii)
    · exact .inl ⟨hcode, .inl (.inr hblank)⟩
    · exact .inl ⟨hcode, .inr hcontrol⟩

/-- Decoding undoes encoding for every text, and an encoded text is a literal exactly if each
character is plain, or white space or a control character that three digits can name. -/
theorem encode_exact (s : String) :
    decode (encode s) = s ∧
      (isLiteral (encode s) = true ↔
        ∀ c ∈ s.toList, isAlphanumeric c = true ∨ c = '_' ∨ (' ' ≤ c ∧ c ≤ '~') ∨
          (c.toNat ≤ 999 ∧ (isBlank c = true ∨ isControl c = true))) := by
  refine ⟨decode_encode s, ?_⟩
  simp only [isLiteral_encode_iff, escaped_or_plain_eq_true_iff]

/-- A letter beyond ASCII is written as it is; a backslash, a digit and a line feed stay apart. -/
theorem encode_exact_lineFeed :
    (∀ c ∈ "č\\9\n".toList, isAlphanumeric c = true ∨ c = '_' ∨ (' ' ≤ c ∧ c ≤ '~') ∨
      (c.toNat ≤ 999 ∧ (isBlank c = true ∨ isControl c = true))) ∧
    encode "č\\9\n" = "č\\0929\\010" ∧ decode "č\\0929\\010" = "č\\9\n" ∧
    isLiteral "č\\0929\\010" = true := by
  have hcharacters : ∀ c ∈ "č\\9\n".toList, isAlphanumeric c = true ∨ c = '_' ∨
      (' ' ≤ c ∧ c ≤ '~') ∨ (c.toNat ≤ 999 ∧ (isBlank c = true ∨ isControl c = true)) := by
    intro c hc
    have hcases : c = 'č' ∨ c = '\\' ∨ c = '9' ∨ c = '\n' := by simpa using hc
    rcases hcases with rfl | rfl | rfl | rfl
    · exact .inl (by decide +kernel)
    · exact .inr (.inr (.inl (by decide)))
    · exact .inr (.inr (.inl (by decide)))
    · exact .inr (.inr (.inr ⟨by decide, .inl (by decide)⟩))
  have hencode : encode "č\\9\n" = "č\\0929\\010" := by decide +kernel
  rcases encode_exact "č\\9\n" with ⟨hdecode, hliteral⟩
  rw [hencode] at hdecode hliteral
  exact ⟨hcharacters, hencode, hdecode, hliteral.2 hcharacters⟩

end Escape
end Text

/-! ## Reading -/

namespace Value

open Text.Escape (Token Literal)

theorem parse_string_eq_ok_iff {text : String} {value : Value} :
    parse .string text = .ok value ↔ ∃ s, Literal text s ∧ string s = value := by
  simp only [parse, map_eq_ok_iff, parseString_eq_ok_iff]

/-- A text is read as a string exactly if it is made of tokens and does not end in white space.  It
is made of tokens in one way, and the string has the characters that they stand for; only one token
stands for a backslash. -/
theorem parse_string_exact (text : String) :
    ((∃ value, parse .string text = .ok value) ↔
      (∃ tokens : List Token, text.toList = tokens.flatMap Token.spelling) ∧
        ∀ c, text.toList.getLast? = some c → Text.isBlank c = false) ∧
    (∀ tokens others : List Token, text.toList = tokens.flatMap Token.spelling →
      text.toList = others.flatMap Token.spelling → tokens = others) ∧
    (∀ (tokens : List Token) (value : Value), text.toList = tokens.flatMap Token.spelling →
      parse .string text = .ok value →
        ∃ s, value = .string s ∧ List.Forall₂ Token.StandsFor tokens s.toList) ∧
    ∀ token : Token, token.StandsFor '\\' ↔ token.spelling = ['\\', '0', '9', '2'] := by
  refine ⟨?_, ?_, ?_, fun _ => Token.standsFor_backslash_iff⟩
  · constructor
    · intro h
      rcases h with ⟨value, hread⟩
      rcases parse_string_eq_ok_iff.1 hread with ⟨s, ⟨tokens, htokens, hend, -⟩, -⟩
      exact ⟨⟨tokens, htokens⟩, hend⟩
    · intro h
      rcases h with ⟨⟨tokens, htokens⟩, hend⟩
      exact ⟨_, parse_string_eq_ok_iff.2 ⟨_, ⟨tokens, htokens, hend, rfl⟩, rfl⟩⟩
  · intro tokens others htokens hothers
    exact Token.eq_of_flatMap_spelling_eq (htokens.symm.trans hothers)
  · intro tokens value htokens hread
    -- The tokens that were read are the given ones, because there are no others.
    rcases parse_string_eq_ok_iff.1 hread with ⟨s, ⟨others, hothers, -, rfl⟩, rfl⟩
    have hsame : tokens = others := Token.eq_of_flatMap_spelling_eq (htokens.symm.trans hothers)
    refine ⟨_, rfl, ?_⟩
    rw [Token.forall₂_standsFor_iff, String.toList_ofList, hsame]

/-- An escape ends after three digits, so that a digit behind it stands for itself; and a literal
may end in an escape of white space. -/
theorem parse_string_exact_digit :
    ∃ tokens : List Token, "\\0921\\032".toList = tokens.flatMap Token.spelling ∧
      ∃ s, parse .string "\\0921\\032" = .ok (.string s) ∧
        List.Forall₂ Token.StandsFor tokens s.toList ∧ s = "\\1 " := by
  let tokens : List Token :=
    [.escape '0' '9' '2' rfl rfl rfl, .plain '1' (by decide) (by decide +kernel),
      .escape '0' '3' '2' rfl rfl rfl]
  have htokens : "\\0921\\032".toList = tokens.flatMap Token.spelling := rfl
  have hread : parse .string "\\0921\\032" = .ok (.string "\\1 ") := by decide +kernel
  rcases (parse_string_exact _).2.2.1 tokens _ htokens hread with ⟨s, hs, hstands⟩
  cases hs
  exact ⟨tokens, htokens, _, hread, hstands, rfl⟩

end Value

end FrameCode
