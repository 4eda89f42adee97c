import FrameCode.Proofs.Numerals

/-!
# Integer literals

Integers are read in two ways: as words, one digit after another in 64 bits, and as orders, whose
digits are kept as they are.  Both follow one grammar, and a word is read exactly where the integer
fits.

- `Numeral.parse?_eq_none_iff`: the texts that are not numerals
- `Order.toWord?_eq`: an order is the word of its integer, if it fits
- `Word.parse_exact`: what is read from a text, and why nothing is read from another
-/

namespace FrameCode

theorem Numeral.parse?_eq_none_iff {text : String} :
    parse? text = none ↔ ¬ ∃ n, Denotes text.toList n := by
  simp only [← exists_parse?_iff]
  cases parse? text <;> simp

/-! ## Orders as words -/

namespace Order

/-- Only a text outside the grammar of numerals is not read as an order. -/
theorem exists_parse_eq_error_iff {text : String} :
    (∃ reason, parse text = .error reason) ↔ ¬ ∃ n, Numeral.Denotes text.toList n := by
  rw [← Numeral.parse?_eq_none_iff]
  unfold parse
  cases Numeral.parse? text <;> simp

/-- An order is written as a numeral of its integer, and this numeral is read as a word. -/
theorem toWord?_eq (o : Order) : o.toWord? = Word.ofInt? o.toInt := by
  rcases Numeral.exists_parse?_iff.2 o.denotes_render with ⟨numeral, hread, hvalue⟩
  unfold toWord?
  rw [hread]
  change Word.ofNumeral? numeral = _
  rw [Word.ofNumeral?_eq, hvalue]
  rfl

end Order

/-! ## Words -/

namespace Word

theorem parse_eq_malformed_iff {text : String} :
    parse text = .error (.malformed .int text) ↔ ¬ ∃ n, Numeral.Denotes text.toList n := by
  rw [← Numeral.parse?_eq_none_iff]
  unfold parse
  split
  next hnone => simp [hnone]
  next numeral hread => cases ofNumeral? numeral <;> simp [hread]

theorem parse_eq_overflow_iff {text : String} :
    parse text = .error (.overflow text) ↔
      ∃ n, Numeral.Denotes text.toList n ∧ ¬ InRange n := by
  simp only [← Numeral.exists_parse?_iff]
  unfold parse
  split
  next hnone => simp [hnone]
  next numeral hread =>
    have hrange : ofNumeral? numeral = none ↔ ¬ InRange numeral.value := by
      rw [ofNumeral?_eq, ofInt?_eq_none_iff]
    -- The text denotes one integer, that of the numeral.
    simp only [hread, Option.some.injEq, exists_eq_left', ← hrange]
    cases ofNumeral? numeral <;> simp

/-- A word is read from a text exactly if an order is read and fits a word. -/
theorem toOption_parse (text : String) :
    (parse text).toOption = (Order.parse text).toOption.bind Order.toWord? := by
  unfold parse Order.parse
  cases Numeral.parse? text with
  | none => rfl
  | some numeral =>
    -- Neither signs nor leading zeros of the numeral matter: both words are that of its integer.
    have hword : (Order.ofNumeral numeral).toWord? = ofNumeral? numeral := by
      rw [Order.toWord?_eq, Order.toInt_ofNumeral, ofNumeral?_eq]
    dsimp only [Except.toOption, Option.bind_some]
    rw [hword]
    cases ofNumeral? numeral <;> rfl

/-- A text is read as a word if it is a numeral of an integer that fits; it is an overflow if it is
a numeral of another integer, and malformed if it is no numeral.  Orders are read from the same
texts, and an order that fits is the word that is read. -/
theorem parse_exact (text : String) :
    (∀ n, (∃ w, parse text = .ok w ∧ w.toInt = n) ↔
      Numeral.Denotes text.toList n ∧ InRange n) ∧
    (parse text = .error (.overflow text) ↔
      ∃ n, Numeral.Denotes text.toList n ∧ ¬ InRange n) ∧
    (parse text = .error (.malformed .int text) ↔ ¬ ∃ n, Numeral.Denotes text.toList n) ∧
    (parse text).toOption = (Order.parse text).toOption.bind Order.toWord? ∧
    ((∃ reason, Order.parse text = .error reason) ↔
      parse text = .error (.malformed .int text)) := by
  refine ⟨?_, parse_eq_overflow_iff, parse_eq_malformed_iff, toOption_parse text, ?_⟩
  · intro n
    constructor
    · intro h
      rcases h with ⟨w, hread, rfl⟩
      exact ⟨parse_eq_ok_iff.1 hread, inRange_toInt w⟩
    · intro h
      rcases h with ⟨hdenotes, hrange⟩
      rcases exists_ofInt?_iff.2 hrange with ⟨w, hw⟩
      have hvalue : w.toInt = n := ofInt?_eq_some_iff.1 hw
      exact ⟨w, parse_eq_ok_iff.2 (hvalue ▸ hdenotes), hvalue⟩
  · rw [Order.exists_parse_eq_error_iff, parse_eq_malformed_iff]

end Word

end FrameCode
