import FrameCode.Proofs.LexicalGrammar

/-!
# Source forms that are read again

An operand is written in its source form, and a document would give the payload of this form as the
text of an argument.  Such an argument stands for the operand again, with one exception: some
characters can be named by an escape and cannot stand for themselves, and yet they are written as
they are.

- `Text.Escape.decodeChars_flatMap_encodeChar`: decoding undoes encoding, for every text
- `Text.Escape.isLiteral_encode_iff`: when an encoded text is a literal
- `Text.Escape.Lost`: the characters of the exception
- `Operand.mark`, `Operand.payload`: the two parts of a source form
- `Operand.parse_payload_iff`: the payload is read as the operand, unless it has lost characters
-/

namespace FrameCode

/-! ## Escapes -/

namespace Text

/-- A code point that is found lies between the ends of a range. -/
theorem Ranges.exists_of_containsCode {ranges : Ranges} {n : Nat}
    (h : ranges.containsCode n = true) : ∃ range ∈ ranges, range.1 ≤ n ∧ n ≤ range.2 := by
  induction ranges with
  | nil => cases h
  | cons range later ih =>
    simp only [containsCode] at h
    split at h
    next => cases h
    next hfirst =>
      split at h
      next hlast => exact ⟨range, List.mem_cons_self, Nat.le_of_not_lt hfirst, hlast⟩
      next =>
        rcases ih h with ⟨found, hfound, hbetween⟩
        exact ⟨found, List.mem_cons_of_mem _ hfound, hbetween⟩

/-- White space is neither a letter nor a number. -/
theorem isAlphanumeric_eq_false_of_blank {c : Char} (h : isBlank c = true) :
    isAlphanumeric c = false := by
  -- The ranges of white space are few and short.
  have hranges : ∀ range ∈ blankRanges, ∀ k ≤ range.2 - range.1,
      alphanumericRanges.containsCode (range.1 + k) = false := by
    decide +kernel
  rcases Ranges.exists_of_containsCode h with ⟨range, hrange, hfirst, hlast⟩
  have hcode := hranges range hrange (c.toNat - range.1) (Nat.sub_le_sub_right hlast range.1)
  rwa [Nat.add_sub_cancel' hfirst] at hcode

namespace Escape

variable {c : Char} {rest : List Char}

/-- The three digits of a number are read as this number. -/
theorem code_digits {n : Nat} (h : n ≤ 999) :
    code (Nat.digitChar (n / 100 % 10)) (Nat.digitChar (n / 10 % 10)) (Nat.digitChar (n % 10)) =
      n := by
  have hdigit : ∀ k, (Nat.digitChar (k % 10)).toNat - 48 = k % 10 := by
    intro k
    rw [Nat.toNat_digitChar_of_lt_ten (Nat.mod_lt k (by decide)), Nat.add_sub_cancel_left]
  unfold code
  rw [hdigit, hdigit, hdigit]
  omega

/-- Three digits are read as the number that they denote. -/
theorem code_eq_magnitude (a b c : Char) : code a b c = Numeral.magnitude [a, b, c] := by
  have hnil : Numeral.magnitude [] = 0 := rfl
  simp only [code, Numeral.magnitude_cons, List.length_cons, List.length_nil, hnil]
  omega

/-- Three digits always name a character. -/
theorem toNat_ofNat_code {a b c : Char} (ha : a.isDigit = true) (hb : b.isDigit = true)
    (hc : c.isDigit = true) : (Char.ofNat (code a b c)).toNat = Numeral.magnitude [a, b, c] := by
  have hbound : Numeral.magnitude [a, b, c] < 10 ^ 3 :=
    Numeral.magnitude_lt (by simp [ha, hb, hc])
  have hvalid : (Numeral.magnitude [a, b, c]).isValidChar := .inl (by omega)
  rw [code_eq_magnitude, Char.ofNat, dif_pos hvalid]
  rfl

theorem toNat_le_of_isEscaped (h : isEscaped c = true) : c.toNat ≤ 999 := by
  simp only [isEscaped, Bool.and_eq_true, decide_eq_true_eq] at h
  exact h.1

/-- A backslash is always written by its code point. -/
theorem ne_backslash_of_not_escaped (h : isEscaped c = false) : c ≠ '\\' := by
  intro hbackslash
  subst hbackslash
  exact absurd h (by decide)

/-- What is written for a character is decoded to this character, whatever follows. -/
theorem decodeChars_encodeChar_append (c : Char) (rest : List Char) :
    decodeChars (encodeChar c ++ rest) = c :: decodeChars rest := by
  unfold encodeChar
  split
  next hescaped =>
    have hcode := code_digits (toNat_le_of_isEscaped hescaped)
    simp [threeDigits, decodeChars, hcode, Nat.isDigit_digitChar, Nat.mod_lt, Char.ofNat_toNat]
  next hraw => exact decodeChars_cons (ne_backslash_of_not_escaped (Bool.not_eq_true _ ▸ hraw))

/-- What is written for a character is a token, unless the character is neither escaped nor
plain. -/
theorem isSequence_encodeChar_append (c : Char) (rest : List Char) :
    isSequence (encodeChar c ++ rest) = ((isEscaped c || isPlain c) && isSequence rest) := by
  unfold encodeChar
  cases hescaped : isEscaped c with
  | true => simp [threeDigits, isSequence, Nat.isDigit_digitChar, Nat.mod_lt]
  | false =>
    have hsplit := @isSequence_cons c rest (ne_backslash_of_not_escaped hescaped)
    simpa using hsplit

/-- Decoding undoes encoding. -/
theorem decodeChars_flatMap_encodeChar (text : List Char) :
    decodeChars (text.flatMap encodeChar) = text := by
  induction text with
  | nil => rfl
  | cons c text ih => rw [List.flatMap_cons, decodeChars_encodeChar_append, ih]

theorem decode_encode (s : String) : decode (encode s) = s := by
  unfold decode encode
  rw [String.toList_ofList, decodeChars_flatMap_encodeChar, String.ofList_toList]

theorem isSequence_flatMap_encodeChar (text : List Char) :
    isSequence (text.flatMap encodeChar) = text.all fun c => isEscaped c || isPlain c := by
  induction text with
  | nil => rfl
  | cons c text ih => rw [List.flatMap_cons, isSequence_encodeChar_append, ih, List.all_cons]

/-! ### White space -/

/-- Beyond ASCII only letters and numbers are plain. -/
theorem isPlain_eq_isAlphanumeric (h : 126 < c.toNat) : isPlain c = isAlphanumeric c := by
  have hunderscore : c ≠ '_' := by
    intro heq
    rw [heq] at h
    exact absurd h (by decide)
  have hascii : ¬ c ≤ '~' := by
    intro hle
    have hsmall : c.toNat ≤ 126 := hle
    omega
  simp [isPlain, hunderscore, hascii]

/-- White space that three digits cannot name may not stand in a literal at all. -/
theorem isPlain_eq_false_of_blank (hblank : isBlank c = true) (hlarge : 999 < c.toNat) :
    isPlain c = false := by
  rw [isPlain_eq_isAlphanumeric (Nat.lt_trans (by decide) hlarge)]
  exact isAlphanumeric_eq_false_of_blank hblank

/-- White space that a literal can stand for is escaped. -/
theorem isBlank_eq_false_of_mem_encodeChar {d : Char} (hc : isPlain c = true ∨ c.toNat ≤ 999)
    (hd : d ∈ encodeChar c) : isBlank d = false := by
  unfold encodeChar at hd
  split at hd
  next =>
    have hdigits : ∀ n < 10, isBlank (Nat.digitChar n) = false := by decide
    have hmod : ∀ n, n % 10 < 10 := fun n => Nat.mod_lt n (by decide)
    simp only [threeDigits, List.mem_cons, List.not_mem_nil, or_false] at hd
    rcases hd with rfl | rfl | rfl | rfl
    · decide
    · exact hdigits _ (hmod _)
    · exact hdigits _ (hmod _)
    · exact hdigits _ (hmod _)
  next hraw =>
    rw [List.mem_singleton.1 hd]
    by_contra hblank
    have hblank : isBlank c = true := by simpa using hblank
    -- White space that is not escaped has a greater code point than three digits can name, and then
    -- it is not plain.
    have hlarge : 999 < c.toNat := by
      by_contra hsmall
      exact hraw (by simp [isEscaped, hblank, Nat.le_of_not_lt hsmall])
    have hplain := hc.resolve_right (Nat.not_le_of_lt hlarge)
    rw [isPlain_eq_false_of_blank hblank hlarge] at hplain
    cases hplain

theorem endsBlank_flatMap_encodeChar {text : List Char}
    (h : ∀ c ∈ text, (isEscaped c || isPlain c) = true) :
    endsBlank (text.flatMap encodeChar) = false := by
  refine endsBlank_eq_false_iff.2 ?_
  intro last hlast
  rcases List.mem_flatMap.1 (List.mem_of_getLast? hlast) with ⟨c, hc, hmem⟩
  have hbounded : isPlain c = true ∨ c.toNat ≤ 999 := by
    rcases Bool.or_eq_true_iff.1 (h c hc) with hescaped | hplain
    · exact .inr (toNat_le_of_isEscaped hescaped)
    · exact .inl hplain
  exact isBlank_eq_false_of_mem_encodeChar hbounded hmem

/-- An encoded text is a literal exactly if each of its characters is escaped or plain. -/
theorem isLiteral_encode_iff {s : String} :
    isLiteral (encode s) = true ↔ ∀ c ∈ s.toList, (isEscaped c || isPlain c) = true := by
  unfold isLiteral encode
  rw [String.toList_ofList, isSequence_flatMap_encodeChar]
  constructor
  · intro h
    exact List.all_eq_true.1 (Bool.and_eq_true_iff.1 h).2
  · intro h
    rw [endsBlank_flatMap_encodeChar h, List.all_eq_true.2 h]
    rfl

/-! ### Lost characters -/

/-- Characters that three digits can name and that may not stand for themselves, although they are
neither white space nor control characters. -/
def Lost (c : Char) : Prop :=
  160 < c.toNat ∧ c.toNat ≤ 999 ∧ isAlphanumeric c = false

instance (c : Char) : Decidable (Lost c) :=
  inferInstanceAs (Decidable (_ ∧ _ ∧ _))

/-- The characters that a token can stand for. -/
theorem Token.meaning_bounded (token : Token) :
    isPlain token.meaning = true ∨ token.meaning.toNat ≤ 999 := by
  cases token with
  | plain c _ hplain => exact .inl hplain
  | escape a b c ha hb hc =>
    have hbound : Numeral.magnitude [a, b, c] < 10 ^ 3 :=
      Numeral.magnitude_lt (by simp [ha, hb, hc])
    right
    change (Char.ofNat (code a b c)).toNat ≤ 999
    rw [toNat_ofNat_code ha hb hc]
    omega

/-- Nothing beyond 160 is escaped: the white space that is left there needs more than three
digits. -/
theorem isEscaped_eq_false (hfirst : 160 < c.toNat) : isEscaped c = false := by
  have hne : ∀ d : Char, d.toNat ≤ 160 → c ≠ d := by
    intro d hd heq
    rw [heq] at hfirst
    omega
  have hcontrol : isControl c = false := by
    simp only [isControl, Bool.or_eq_false_iff, Bool.and_eq_false_iff, decide_eq_false_iff_not]
    omega
  have hranges : ∀ range ∈ blankRanges, range.2 ≤ 160 ∨ 999 < range.1 := by decide
  by_cases hlast : c.toNat ≤ 999
  · have hblank : isBlank c = false := by
      cases hfound : isBlank c with
      | false => rfl
      | true =>
        rcases Ranges.exists_of_containsCode hfound with ⟨range, hrange, hbetween⟩
        rcases hranges range hrange with hbefore | hbehind
        · omega
        · omega
    simp [isEscaped, hblank, hcontrol, hne '\\' (by decide), hne '#' (by decide)]
  · simp [isEscaped, hlast]

/-- Of the characters that a token can stand for, all but the lost ones are written as tokens. -/
theorem escaped_or_plain_iff (hc : isPlain c = true ∨ c.toNat ≤ 999) :
    (isEscaped c || isPlain c) = true ↔ ¬ Lost c := by
  by_cases hlow : c.toNat ≤ 160
  · have hcodes : ∀ n ≤ 160, (isEscaped (Char.ofNat n) || isPlain (Char.ofNat n)) = true := by
      decide +kernel
    have hwritten := hcodes c.toNat hlow
    rw [Char.ofNat_toNat] at hwritten
    have hkept : ¬ Lost c := fun hlost => absurd hlow (Nat.not_le_of_lt hlost.1)
    simp [hwritten, hkept]
  · have hfirst : 160 < c.toNat := Nat.lt_of_not_le hlow
    have hplain : isPlain c = isAlphanumeric c := isPlain_eq_isAlphanumeric (by omega)
    by_cases hhigh : c.toNat ≤ 999
    · simp [isEscaped_eq_false hfirst, hplain, Lost, hfirst, hhigh]
    · -- Beyond three digits only plain characters are left.
      have hkept : ¬ Lost c := fun hlost => hhigh hlost.2.1
      simp [hc.resolve_right hhigh, hkept]

/-- The literal of a text that is itself given by a literal is a literal exactly if the text has no
lost character. -/
theorem Literal.isLiteral_encode_iff {text s : String} (h : Literal text s) :
    isLiteral (encode s) = true ↔ ∀ c ∈ s.toList, ¬ Lost c := by
  rcases h with ⟨tokens, -, -, rfl⟩
  rw [Escape.isLiteral_encode_iff]
  refine forall₂_congr ?_
  intro c hc
  rw [String.toList_ofList] at hc
  rcases List.mem_map.1 hc with ⟨token, -, rfl⟩
  exact escaped_or_plain_iff token.meaning_bounded

end Escape
end Text

/-! ## Source forms -/

theorem Value.parseString_encode_eq_ok_iff {s other : String} :
    parseString (Text.Escape.encode s) = .ok other ↔
      Text.Escape.isLiteral (Text.Escape.encode s) = true ∧ other = s := by
  unfold parseString
  rw [Text.Escape.decode_encode]
  split
  next hliteral => simp [hliteral, eq_comm]
  next hliteral => simp [hliteral]

namespace Operand

/-- What stands before the payload in the source form of an operand: the type of an integer, truth
value or string. -/
def mark : Operand → String
  | literal (.int _) => "int@"
  | literal (.bool _) => "bool@"
  | literal (.string _) => "string@"
  | literal (.type _) | var _ | label _ => ""

/-- The source form of an operand behind its mark. -/
def payload (o : Operand) : String :=
  .ofList (o.render.toList.drop o.mark.length)

/-- A source form that begins with the mark has the rest as its payload. -/
theorem payload_eq {o : Operand} (text : String) (h : o.render = o.mark ++ text) :
    o.payload = text := by
  unfold payload
  rw [h, String.toList_append, ← String.length_toList, List.drop_left, String.ofList_toList]

theorem render_eq_mark_append (o : Operand) : o.render = o.mark ++ o.payload := by
  have hrest : ∃ text, o.render = o.mark ++ text := by
    rcases o with v | (n | b | s | tag) | name
    · exact ⟨v.render, String.empty_append.symm⟩
    · exact ⟨n.render, rfl⟩
    · exact ⟨Value.boolText b, rfl⟩
    · exact ⟨Text.Escape.encode s, rfl⟩
    · exact ⟨tag.name, String.empty_append.symm⟩
    · exact ⟨name, String.empty_append.symm⟩
  rcases hrest with ⟨text, htext⟩
  rw [payload_eq text htext, htext]

/-- The payload of an operand that is not a string is one of its texts. -/
theorem Spelled.payload {given : ArgumentType} {text : String} {o : Operand}
    (h : Spelled given text o) (hstring : ∀ s, o ≠ .literal (.string s)) :
    Spelled given o.payload o := by
  cases h with
  | var v hname =>
    rw [payload_eq v.render String.empty_append.symm]
    exact .var v hname
  | label name hname =>
    rw [payload_eq text String.empty_append.symm]
    exact .label text hname
  | int _ n _ =>
    rw [payload_eq n.render rfl]
    exact .int n.render n n.denotes_render
  | bool b =>
    rw [payload_eq (Value.boolText b) rfl]
    exact .bool b
  | string _ s _ => exact absurd rfl (hstring s)
  | type tag htag =>
    rw [payload_eq tag.name String.empty_append.symm]
    exact .type tag htag

theorem parse_string_payload_iff {s : String} {other : Operand} :
    parse .string (literal (.string s)).payload = .ok other ↔
      Text.Escape.isLiteral (Text.Escape.encode s) = true ∧ other = .literal (.string s) := by
  rw [payload_eq (Text.Escape.encode s) rfl]
  simp only [parse, Value.parse, map_eq_ok_iff, Value.parseString_encode_eq_ok_iff]
  constructor
  · intro h
    rcases h with ⟨_, ⟨_, ⟨hliteral, rfl⟩, rfl⟩, rfl⟩
    exact ⟨hliteral, rfl⟩
  · intro h
    rcases h with ⟨hliteral, rfl⟩
    exact ⟨_, ⟨s, ⟨hliteral, rfl⟩, rfl⟩, rfl⟩

/-- The payload of the source form of an operand that has been read is read as this operand again,
unless the operand is a string with a lost character; it is never read as another operand. -/
theorem parse_payload_iff (given : ArgumentType) (text : String) (o : Operand)
    (h : parse given text = .ok o) :
    o.render = o.mark ++ o.payload ∧
      (parse given o.payload = .ok o ↔
        ∀ s, o = .literal (.string s) → ∀ c ∈ s.toList, ¬ Text.Escape.Lost c) ∧
      ∀ other, parse given o.payload = .ok other → other = o := by
  refine ⟨o.render_eq_mark_append, ?_⟩
  have hspelled := parse_eq_ok_iff.1 h
  by_cases hstring : ∃ s, o = .literal (.string s)
  · rcases hstring with ⟨s, rfl⟩
    cases hspelled with
    | string _ _ hliteral =>
      refine ⟨?_, fun other hother => (parse_string_payload_iff.1 hother).2⟩
      rw [parse_string_payload_iff, hliteral.isLiteral_encode_iff]
      simp
  · have hagain : parse given o.payload = .ok o :=
      parse_eq_ok_iff.2 (hspelled.payload fun s hs => hstring ⟨s, hs⟩)
    refine ⟨⟨fun _ s hs => absurd ⟨s, hs⟩ hstring, fun _ => hagain⟩, ?_⟩
    intro other hother
    exact Except.ok.inj (hother.symm.trans hagain)

/-- A string with a line feed, a number sign, a letter beyond ASCII and a space at its end is read
again. -/
theorem parse_payload_iff_escapes :
    ∃ o, parse .string "\\010#ž\\032" = .ok o ∧ o.render = "string@\\010\\035ž\\032" ∧
      o.render = o.mark ++ o.payload ∧ parse .string o.payload = .ok o := by
  have hread : parse .string "\\010#ž\\032" = .ok (.literal (.string "\n#ž ")) := by
    decide +kernel
  have hkept : ("\n#ž ".toList.all fun c => !decide (Text.Escape.Lost c)) = true := by
    decide +kernel
  rcases parse_payload_iff _ _ _ hread with ⟨hmark, hagain, -⟩
  refine ⟨_, hread, by decide +kernel, hmark, hagain.2 ?_⟩
  intro s hs c hc
  cases hs
  simpa using List.all_eq_true.1 hkept c hc

/-- The multiplication sign has the code point 215.  It is read from an escape and written as it is,
which is not a literal. -/
theorem parse_payload_multiplicationSign :
    ∃ o, parse .string "\\215" = .ok o ∧ o.payload = "×" ∧ parse .string o.payload ≠ .ok o := by
  refine ⟨.literal (.string "×"), ?_, ?_, ?_⟩
  · decide +kernel
  · decide +kernel
  · decide +kernel

end Operand

end FrameCode
