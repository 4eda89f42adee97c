import FrameCode.Proofs.IndexedStrings

/-!
# Characters and their code points

Code points and characters are converted into each other without loss.  `INT2CHAR` takes just the
numbers that are code points, and `STRI2INT` gives them back; so a string can be taken apart into
code points and built again from them.

- `Instruction.toInt_wordOfChar`: the number of a character
- `Opcode.Converts`: what `INT2CHAR` makes of a number
- `Opcode.Rebuilds`: a string is built from the code points of another one
- `Opcode.characters_invertible`: both ways of conversion are inverse to each other
-/

namespace FrameCode

/-! ## Code points -/

namespace Instruction

theorem toInt_wordOfChar (c : Char) : (wordOfChar c).toInt = c.toNat := by
  have hvalid : c.toNat.isValidChar := c.valid
  have hlt : c.toNat < 2 ^ 63 := by
    rcases hvalid with hlow | ⟨-, hhigh⟩ <;> omega
  exact Int64.toInt_ofNat_of_lt hlt

theorem wordOfChar_eq_iff {n : Word} {c : Char} : wordOfChar c = n ↔ n.toInt = c.toNat := by
  rw [← toInt_wordOfChar, ← Int64.toInt_inj, eq_comm]

/-- A number is refused exactly if it is no code point. -/
theorem charOfWord?_eq_none_iff {n : Word} : charOfWord? n = none ↔ ¬ IsCodePoint n.toInt := by
  rw [← exists_toNat_eq_iff, ← Option.not_isSome_iff_eq_none, Option.isSome_iff_exists]
  simp only [charOfWord?_eq_some_iff]

end Instruction

namespace Opcode

open Instruction (IsCodePoint IndexesIn)

variable {s text : String} {n l index : Word} {result : Value}

theorem charOfInt_computes_iff :
    charOfInt.Computes [.int n] result ↔
      ∃ c : Char, n.toInt = c.toNat ∧ result = .string (.singleton c) := by
  apply computes_iff_of_stores
  intro i labels m hop hvalues
  rcases hvalues.from 1 hop rfl with ⟨hn, -⟩
  simp only [Instruction.effect, hop]
  exact Instruction.charOfInt_stores.congr fun result =>
    Instruction.exists_hasValue_iff Value.int.inj hn

theorem charOfInt_fails (h : ¬ IsCodePoint n.toInt) :
    charOfInt.Fails [.int n] (.invalidCodePoint n) := by
  apply fails_of_effect
  intro i labels m hop hvalues _
  rcases hvalues.from 1 hop rfl with ⟨hn, -⟩
  have hnone : Instruction.charOfWord? n = none := Instruction.charOfWord?_eq_none_iff.2 h
  simp only [Instruction.effect, hop, Instruction.charOfInt, Instruction.wordAt_eq_ok_iff.2 hn,
    Bind.bind, Except.bind, hnone]

theorem exists_charOfInt_computes_iff :
    (∃ result, charOfInt.Computes [.int n] result) ↔ IsCodePoint n.toInt := by
  rw [← Instruction.exists_toNat_eq_iff]
  constructor
  · intro h
    rcases h with ⟨result, hresult⟩
    rcases charOfInt_computes_iff.1 hresult with ⟨c, hc, -⟩
    exact ⟨c, hc⟩
  · intro h
    rcases h with ⟨c, hc⟩
    exact ⟨_, charOfInt_computes_iff.2 ⟨c, hc, rfl⟩⟩

/-- What `INT2CHAR` makes of a number. -/
structure Converts (n : Word) : Prop where
  computes_iff : (∃ result, charOfInt.Computes [.int n] result) ↔ IsCodePoint n.toInt
  fails_iff : charOfInt.Fails [.int n] (.invalidCodePoint n) ↔ ¬ IsCodePoint n.toInt
  /-- The result is a string of one character, and the number is its code point. -/
  inverse : ∀ result, charOfInt.Computes [.int n] result → ∃ t, result = .string t ∧
    length.Computes [.string t] (.int 1) ∧ intOfChar.Computes [.string t, .int 0] (.int n)

theorem converts (n : Word) : Converts n where
  computes_iff := exists_charOfInt_computes_iff
  fails_iff := by
    refine ⟨fun hfails h => ?_, charOfInt_fails⟩
    rcases exists_charOfInt_computes_iff.2 h with ⟨result, hresult⟩
    exact hresult.not_fails hfails
  inverse := by
    intro result h
    rcases charOfInt_computes_iff.1 h with ⟨c, hc, rfl⟩
    refine ⟨_, rfl, ?_, ?_⟩
    · rw [length_computes_iff, String.length_singleton]
      rfl
    · refine intOfChar_computes_iff.2 ⟨c, ?_, ?_⟩
      · simp [Text.character?]
      · rw [Instruction.wordOfChar_eq_iff.2 hc]

/-- The code point of a character is converted back to the character. -/
theorem exists_conversion (h : IndexesIn s index) : ∃ n piece,
    intOfChar.Computes [.string s, .int index] (.int n) ∧
      charOfInt.Computes [.int n] (.string piece) ∧
      getChar.Computes [.string s, .int index] (.string piece) := by
  rcases exists_lookup h with ⟨c, hget, hint⟩
  have hc := Instruction.toInt_wordOfChar c
  exact ⟨_, _, hint, charOfInt_computes_iff.2 ⟨c, hc, rfl⟩, hget⟩

/-! ## Strings from code points -/

/-- A text is built by appending the first characters of a string one after the other, each of them
converted to its code point and back. -/
inductive Rebuilds (s : String) : Nat → String → Prop
  | start : Rebuilds s 0 ""
  | append {count : Nat} {text piece longer : String} {index n : Word}
      (hbefore : Rebuilds s count text) (hindex : index.toInt = count)
      (hcode : intOfChar.Computes [.string s, .int index] (.int n))
      (hpiece : charOfInt.Computes [.int n] (.string piece))
      (hconcat : concat.Computes [.string text, .string piece] (.string longer)) :
      Rebuilds s (count + 1) longer

/-- What is appended is the character at the index. -/
theorem piece_eq {piece : String} (hcode : intOfChar.Computes [.string s, .int index] (.int n))
    (hpiece : charOfInt.Computes [.int n] (.string piece)) :
    ∃ c, Text.character? s index.toInt = some c ∧ piece = .singleton c := by
  rcases intOfChar_computes_iff.1 hcode with ⟨c, hc, hn⟩
  rcases charOfInt_computes_iff.1 hpiece with ⟨converted, hconverted, hp⟩
  have hsame : converted = c := by
    rw [Value.int.inj hn, Instruction.toInt_wordOfChar] at hconverted
    exact Char.toNat_inj.1 (Int.ofNat_inj.1 hconverted).symm
  exact ⟨c, hc, hsame ▸ Value.string.inj hp⟩

/-- Appending one more character gives one more character of the string. -/
theorem take_succ_eq {count : Nat} {c : Char} (hindex : index.toInt = count)
    (hc : Text.character? s index.toInt = some c) :
    s.toList.take (count + 1) = s.toList.take count ++ [c] := by
  have hfound : s.toList[count]? = some c := by
    rw [hindex] at hc
    exact hc
  rw [List.take_add_one, hfound]
  rfl

theorem Rebuilds.toList_eq {count : Nat} (h : Rebuilds s count text) :
    text.toList = s.toList.take count := by
  induction h with
  | start => rfl
  | @append count text _ longer _ _ _ hindex hcode hpiece hconcat ih =>
    rcases piece_eq hcode hpiece with ⟨c, hc, rfl⟩
    have hlonger : longer = text ++ .singleton c := Value.string.inj (concat_computes_iff.1 hconcat)
    calc
      longer.toList = text.toList ++ [c] := by simp [hlonger]
      _ = s.toList.take count ++ [c] := by rw [ih]
      _ = s.toList.take (count + 1) := (take_succ_eq hindex hc).symm

/-- The first characters can be appended, as many as there are. -/
theorem rebuilds_take (hl : l.toInt = s.length) {count : Nat} (hcount : count ≤ s.length) :
    Rebuilds s count (.ofList (s.toList.take count)) := by
  induction count with
  | zero => exact .start
  | succ count ih =>
    -- Every position below the length is a word, since the length is one.
    have hrange : Word.InRange count := by
      have hhigh := Word.inRange_toInt l
      unfold Word.InRange at hhigh ⊢
      omega
    rcases Word.exists_toInt_eq hrange with ⟨index, hindex⟩
    have hbounds : IndexesIn s index := by
      unfold IndexesIn
      omega
    rcases exists_conversion hbounds with ⟨n, piece, hcode, hpiece, -⟩
    refine .append (ih (Nat.le_of_succ_le hcount)) hindex hcode hpiece (concat_computes_iff.2 ?_)
    rcases piece_eq hcode hpiece with ⟨c, hc, rfl⟩
    rw [take_succ_eq hindex hc, String.ofList_append]
    rfl

/-- All characters of a string together are the string. -/
theorem rebuilds_iff (hl : l.toInt = s.length) : Rebuilds s l.toInt.toNat text ↔ text = s := by
  rw [hl, Int.toNat_natCast]
  have hall : s.toList.take s.length = s.toList := by
    rw [← String.length_toList, List.take_length]
  constructor
  · intro h
    exact String.toList_injective (h.toList_eq.trans hall)
  · intro h
    have hrebuilds := rebuilds_take hl (Nat.le_refl s.length)
    rw [hall, String.ofList_toList] at hrebuilds
    exact h ▸ hrebuilds

/-- `INT2CHAR` takes just the code points of characters, and `STRI2INT` gives them back; `INT2CHAR`
makes the same of a code point as `GETCHAR` of the character, and all of them together rebuild the
string. -/
theorem characters_invertible :
    (∀ n : Word, Converts n) ∧
    ∀ (s : String) (l : Word), length.Computes [.string s] (.int l) →
      (∀ index, 0 ≤ index → index < l → ∃ n piece,
        intOfChar.Computes [.string s, .int index] (.int n) ∧
          charOfInt.Computes [.int n] (.string piece) ∧
          getChar.Computes [.string s, .int index] (.string piece)) ∧
      ∀ text, Rebuilds s l.toInt.toNat text ↔ text = s := by
  refine ⟨converts, ?_⟩
  intro s l hlength
  have hl : l.toInt = s.length := length_computes_iff.1 hlength
  constructor
  · intro index hlow hhigh
    exact exists_conversion ((indexesIn_iff hl).2 ⟨hlow, hhigh⟩)
  · intro text
    exact rebuilds_iff hl

/-- A character beyond the first plane is taken apart and put together again. -/
theorem characters_invertible_astral :
    (∃ result, charOfInt.Computes [.int 0x1f600] result) ∧
    length.Computes [.string "a😀"] (.int 2) ∧ Rebuilds "a😀" 2 "a😀" := by
  have hlength : length.Computes [.string "a😀"] (.int 2) :=
    length_computes_iff.2 (by decide +kernel)
  have hcode : IsCodePoint (0x1f600 : Word).toInt := by
    unfold IsCodePoint
    decide +kernel
  exact ⟨(characters_invertible.1 _).computes_iff.2 hcode, hlength,
    ((characters_invertible.2 _ _ hlength).2 _).2 rfl⟩

end Opcode

end FrameCode
