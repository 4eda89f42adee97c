import FrameCode.Proofs.SourceForm

/-!
# Texts without white space

Everything that a program is written with, other than what stands between the words, is free of
white space: numerals, names, mnemonics, and string literals, whose white space is escaped.

- `Text.Unspaced`: a text without white space
- `Text.trim_of_unspaced`: trimming leaves such a text as it is
- `Numeral.unspaced_render`, `Text.IsName.unspaced`, `Text.Escape.unspaced_encode`: what is written
  has no white space
- `Operand.Spelled.unspaced_render`: neither have operands
-/

namespace FrameCode

namespace Text

/-- A text without white space. -/
def Unspaced (text : String) : Prop :=
  ∀ c ∈ text.toList, isBlank c = false

instance (text : String) : Decidable (Unspaced text) :=
  List.decidableBAll (fun c => isBlank c = false) text.toList

variable {c : Char} {text : String}

theorem unspaced_append {a b : String} : Unspaced (a ++ b) ↔ Unspaced a ∧ Unspaced b := by
  unfold Unspaced
  rw [String.toList_append]
  exact List.forall_mem_append

theorem Unspaced.not_mem (h : Unspaced text) (hblank : isBlank c = true) : c ∉ text.toList := by
  intro hmem
  rw [h c hmem] at hblank
  cases hblank

/-- Trimming takes nothing away from a text without white space. -/
theorem trim_of_unspaced (h : Unspaced text) : trim text = text := by
  have hkeep : ∀ chars : List Char, (∀ c ∈ chars, isBlank c = false) →
      chars.dropWhile isBlank = chars := by
    intro chars hchars
    cases chars with
    | nil => rfl
    | cons c chars => exact List.dropWhile_cons_of_neg (by simp [hchars c])
  have hback : ∀ c ∈ text.toList.reverse, isBlank c = false :=
    fun c hc => h c (List.mem_reverse.1 hc)
  unfold trim trimEnd
  rw [hkeep _ h, hkeep _ hback, List.reverse_reverse, String.ofList_toList]

/-- Between the space and the delete character there is no white space. -/
theorem isBlank_eq_false_of_graphic (hfirst : 33 ≤ c.toNat) (hlast : c.toNat ≤ 126) :
    isBlank c = false := by
  have hranges : ∀ range ∈ blankRanges, range.2 < 33 ∨ 126 < range.1 := by decide
  by_contra hblank
  have hblank : isBlank c = true := by simpa using hblank
  rcases Ranges.exists_of_containsCode hblank with ⟨range, hrange, hlow, hhigh⟩
  rcases hranges range hrange with hbefore | hbehind
  · omega
  · omega

theorem isBlank_eq_false_of_isDigit (h : c.isDigit = true) : isBlank c = false := by
  have hbounds := Numeral.toNat_of_isDigit h
  exact isBlank_eq_false_of_graphic (by omega) (by omega)

theorem IsName.unspaced (h : IsName text) : Unspaced text := by
  intro c hc
  by_contra hblank
  have hblank : isBlank c = true := by simpa using hblank
  have hchar : isAlphanumeric c = true ∨ c ∈ ['_', '-', '$', '&', '%', '*'] := by
    simpa [isIdentifierChar] using h.2 c hc
  rcases hchar with hletter | hsign
  · rw [isAlphanumeric_eq_false_of_blank hblank] at hletter
    cases hletter
  · have hsigns : Unspaced "_-$&%*" := by decide
    rw [hsigns c (by simpa using hsign)] at hblank
    cases hblank

namespace Escape

/-- The literal of a text that a literal can stand for has no white space. -/
theorem unspaced_encode {s : String} (h : Literal text s) : Unspaced (encode s) := by
  rcases h with ⟨tokens, -, -, rfl⟩
  intro d hd
  simp only [encode, String.toList_ofList, List.mem_flatMap, List.mem_map] at hd
  rcases hd with ⟨_, ⟨token, -, rfl⟩, hd⟩
  exact isBlank_eq_false_of_mem_encodeChar token.meaning_bounded hd

end Escape
end Text

open Text (Unspaced unspaced_append)

theorem Numeral.unspaced_render (n : Numeral) : Unspaced n.render := by
  intro c hc
  rcases isDigit_or_minus_of_mem_render hc with hdigit | rfl
  · exact Text.isBlank_eq_false_of_isDigit hdigit
  · rfl

theorem Word.unspaced_render (n : Word) : Unspaced n.render :=
  Numeral.unspaced_render _

theorem Opcode.unspaced_mnemonic (op : Opcode) : Unspaced op.mnemonic := by
  cases op <;> decide

/-- The source form of an operand that has been read has no white space. -/
theorem Operand.Spelled.unspaced_render {given : ArgumentType} {text : String} {o : Operand}
    (h : Spelled given text o) : Unspaced o.render := by
  cases h with
  | var v hname =>
    have hscope : Unspaced (v.scope.name ++ "@") := by cases v.scope <;> decide
    exact unspaced_append.2 ⟨hscope, hname.unspaced⟩
  | label name hname => exact hname.unspaced
  | int _ n _ => exact unspaced_append.2 ⟨by decide, n.unspaced_render⟩
  | bool b => cases b <;> decide
  | string _ s hliteral =>
    exact unspaced_append.2 ⟨by decide, Text.Escape.unspaced_encode hliteral⟩
  | type tag _ => cases tag <;> decide

end FrameCode
