import FrameCode.Proofs.LexicalGrammar
import Mathlib.Logic.Equiv.Defs

/-!
# The texts of variables

A text is cut at its first `@`, and what follows is checked to be a name.  A name has no `@`, so a
text that is accepted has no other place to be cut at, and it can be put together again from the
frame and the name that were read.

- `Variable.IsWritten`: the texts of variables, by their characters
- `Variable.reading`: these texts and the variables with a proper name, one for one
- `Variable.parse?_bijective`: reading does this and accepts no other text
-/

namespace FrameCode
namespace Variable

variable {text : String} {v : Variable}

/-- One of `GF`, `LF` and `TF`, an `@`, and one or more characters that a name may have. -/
def IsWritten (text : String) : Prop :=
  ∃ frame ∈ ["GF", "LF", "TF"], ∃ name : List Char, name ≠ [] ∧
    (∀ c ∈ name, Text.isIdentifierChar c = true) ∧ text.toList = frame.toList ++ '@' :: name

theorem mem_frames_iff {frame : String} :
    frame ∈ ["GF", "LF", "TF"] ↔ ∃ scope : Scope, scope.name = frame := by
  constructor
  · intro h
    simp only [List.mem_cons, List.not_mem_nil, or_false] at h
    rcases h with rfl | rfl | rfl
    · exact ⟨.global, rfl⟩
    · exact ⟨.current, rfl⟩
    · exact ⟨.temporary, rfl⟩
  · intro h
    rcases h with ⟨scope, rfl⟩
    cases scope <;> decide

theorem isWritten_render (h : Text.IsName v.name) : IsWritten v.render :=
  ⟨v.scope.name, mem_frames_iff.2 ⟨v.scope, rfl⟩, v.name.toList, h.1, h.2, by simp [render]⟩

theorem IsWritten.exists_render (h : IsWritten text) :
    ∃ v : Variable, text = v.render ∧ Text.IsName v.name := by
  rcases h with ⟨frame, hframe, name, hnonempty, hchars, htext⟩
  rcases mem_frames_iff.1 hframe with ⟨scope, rfl⟩
  refine ⟨⟨scope, .ofList name⟩, ?_, ?_⟩
  · apply String.toList_injective
    simp [render, htext]
  · simpa [Text.IsName] using And.intro hnonempty hchars

theorem exists_parse?_iff : (∃ v, parse? text = some v) ↔ IsWritten text := by
  constructor
  · intro h
    rcases h with ⟨v, hv⟩
    rcases parse?_eq_some_iff.1 hv with ⟨rfl, hname⟩
    exact isWritten_render hname
  · intro h
    rcases h.exists_render with ⟨v, htext, hname⟩
    exact ⟨v, parse?_eq_some_iff.2 ⟨htext, hname⟩⟩

theorem parse?_render (h : Text.IsName v.name) : parse? v.render = some v :=
  parse?_eq_some_iff.2 ⟨rfl, h⟩

/-- A name has no `@`, so there is just one in the text of a variable. -/
theorem IsWritten.count_at (h : IsWritten text) : text.toList.count '@' = 1 := by
  rcases h with ⟨frame, hframe, name, -, hchars, htext⟩
  have hname : '@' ∉ name := by
    intro hmem
    have hnot : Text.isIdentifierChar '@' = false := by decide
    rw [hchars _ hmem] at hnot
    cases hnot
  have hfree : ∀ frame ∈ ["GF", "LF", "TF"], frame.toList.count '@' = 0 := by decide
  rw [htext, List.count_append, hfree frame hframe, List.count_cons_self,
    List.count_eq_zero_of_not_mem hname]

/-! ## Texts and variables, one for one -/

theorem isSome_parse? (h : IsWritten text) : (parse? text).isSome :=
  Option.isSome_iff_exists.2 (exists_parse?_iff.2 h)

/-- Reads the texts of variables; to write a variable is the way back. -/
def reading : {text : String // IsWritten text} ≃ {v : Variable // Text.IsName v.name} where
  toFun text := ⟨(parse? text.1).get (isSome_parse? text.2),
    (parse?_eq_some_iff.1 (Option.some_get _).symm).2⟩
  invFun v := ⟨v.1.render, isWritten_render v.2⟩
  left_inv _ := Subtype.ext (parse?_eq_some_iff.1 (Option.some_get _).symm).1.symm
  right_inv v := Subtype.ext (Option.get_of_eq_some _ (parse?_render v.2))

/-- Exactly the texts of variables are read, and each is the text of the variable that is read;
every variable with a proper name is read from its text.  So reading is one for one, and writing is
the way back. -/
theorem parse?_bijective :
    (∀ text, (∃ v, parse? text = some v) ↔ IsWritten text) ∧
    (∀ text v, parse? text = some v → v.render = text ∧ text.toList.count '@' = 1) ∧
    (∀ scope name, Text.IsName name → parse? (render ⟨scope, name⟩) = some ⟨scope, name⟩) ∧
    (∀ text, parse? text.1 = some (reading text).1) ∧
    ∀ v, (reading.symm v).1 = v.1.render := by
  refine ⟨fun text => exists_parse?_iff, ?_, ?_, ?_, ?_⟩
  · intro text v h
    exact ⟨(parse?_eq_some_iff.1 h).1.symm, (exists_parse?_iff.1 ⟨v, h⟩).count_at⟩
  · intro scope name h
    exact parse?_render h
  · intro text
    exact (Option.some_get _).symm
  · intro v
    rfl

/-- A name of letters with accents and signs is read from its text and written again. -/
theorem parse?_bijective_signs :
    Text.IsName "př_-$&%*" ∧
    parse? (render ⟨.temporary, "př_-$&%*"⟩) = some ⟨.temporary, "př_-$&%*"⟩ ∧
    render ⟨.temporary, "př_-$&%*"⟩ = "TF@př_-$&%*" ∧ "TF@př_-$&%*".toList.count '@' = 1 := by
  rcases parse?_bijective with ⟨-, hwritten, hread, -, -⟩
  have hname : Text.IsName "př_-$&%*" := Text.isIdentifier_iff.1 (by decide)
  have hparse := hread .temporary _ hname
  exact ⟨hname, hparse, rfl, (hwritten _ _ hparse).2⟩

end Variable
end FrameCode
