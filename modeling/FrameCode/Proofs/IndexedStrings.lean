import FrameCode.Proofs.Results

/-!
# The laws of indexed strings

Five opcodes look into strings: one counts the characters, two take a character out, one puts a
character in, and one puts two strings together.  They count characters and never bytes, and they
agree on which numbers are indices.

- `Text.character?`: the character of a text at an index
- `Opcode.getChar_computes_iff` and its companions: what the opcodes compute, in terms of characters
- `Opcode.Indexed`: the laws of one index
- `Opcode.Concatenated`: the laws of a concatenation
- `Opcode.strings_indexed`: they hold for all strings
-/

namespace FrameCode

theorem Word.exists_toInt_eq {x : Int} (h : InRange x) : ∃ n : Word, n.toInt = x := by
  rcases exists_ofInt?_iff.2 h with ⟨n, hn⟩
  exact ⟨n, ofInt?_eq_some_iff.1 hn⟩

/-! ## Characters of a text -/

namespace Text

variable {s r : String} {index other : Int} {c : Char}

/-- The character of a text at an index; there is none before the text and behind it. -/
def character? (s : String) (index : Int) : Option Char :=
  if 0 ≤ index then s.toList[index.toNat]? else none

theorem exists_character?_iff :
    (∃ c, character? s index = some c) ↔ 0 ≤ index ∧ index < s.length := by
  unfold character?
  split
  next hnonneg =>
    rw [← Option.ne_none_iff_exists', Ne, List.getElem?_eq_none_iff, String.length_toList]
    omega
  next hneg => simp [hneg]

/-- The first text has the lower indices, and the second one goes on behind it. -/
theorem character?_append :
    character? (s ++ r) index =
      if index < s.length then character? s index else character? r (index - s.length) := by
  unfold character?
  rw [String.toList_append, List.getElem?_append, String.length_toList]
  by_cases hfirst : index < s.length
  · rw [if_pos hfirst]
    split
    next => rw [if_pos (by omega)]
    next => rfl
  · have hnonneg : 0 ≤ index := by omega
    have hrest : 0 ≤ index - s.length := by omega
    have hsecond : ¬ index.toNat < s.length := by omega
    have hposition : index.toNat - s.length = (index - s.length).toNat := by omega
    rw [if_neg hfirst, if_pos hnonneg, if_neg hsecond, if_pos hrest, hposition]

/-- A text with one character replaced. -/
def replace (s : String) (index : Int) (c : Char) : String :=
  .ofList (s.toList.set index.toNat c)

theorem length_replace (s : String) (index : Int) (c : Char) :
    (replace s index c).length = s.length := by
  unfold replace
  rw [String.length_ofList, List.length_set, String.length_toList]

theorem character?_replace_self (hlow : 0 ≤ index) (hhigh : index < s.length) :
    character? (replace s index c) index = some c := by
  have hlt : index.toNat < s.toList.length := by
    rw [String.length_toList]
    omega
  unfold character? replace
  rw [if_pos hlow, String.toList_ofList, List.getElem?_set_self hlt]

theorem character?_replace_of_ne (hlow : 0 ≤ index) (hne : other ≠ index) :
    character? (replace s index c) other = character? s other := by
  unfold character? replace
  split
  next hother =>
    have hposition : index.toNat ≠ other.toNat := by omega
    rw [String.toList_ofList, List.getElem?_set_ne hposition]
  next => rfl

end Text

/-! ## What the opcodes compute -/

namespace Instruction

variable {i : Instruction} {s : String} {index : Word} {c : Char}

theorem character?_eq_some_iff :
    Text.character? s index.toInt = some c ↔
      IndexesIn s index ∧ s.toList[index.toInt.toNat]? = some c := by
  constructor
  · intro h
    have hbounds : IndexesIn s index := Text.exists_character?_iff.1 ⟨c, h⟩
    unfold Text.character? at h
    rw [if_pos hbounds.1] at h
    exact ⟨hbounds, h⟩
  · intro h
    unfold Text.character?
    rw [if_pos h.1.1]
    exact h.2

theorem indexIn_of_outside (h : ¬ IndexesIn s index) :
    i.indexIn s index = .error (.indexOutOfRange i.opcode index s.length) :=
  if_neg h

theorem charAt_of_outside (h : ¬ IndexesIn s index) :
    i.charAt s index = .error (.indexOutOfRange i.opcode index s.length) := by
  unfold charAt
  rw [indexIn_of_outside h]
  rfl

/-- The value of a variable among the operands is what the variable holds. -/
theorem HasValue.holds {frames : Frames} {k : Nat} {v : Variable} {value : Value}
    (h : i.HasValue frames k value) (hv : i.operands[k]? = some (.var v)) :
    frames.Holds v (some value) := by
  rcases h with ⟨o, ho, hcontains⟩
  have hsame : o = .var v := Option.some.inj (ho.symm.trans hv)
  subst hsame
  exact hcontains

/-- Once its values are known, `SETCHAR` checks the index first, and then the replacement. -/
theorem setChar_of_values {frames : Frames} {v : Variable} {r : String}
    (hv : i.operands[0]? = some (.var v)) (hs : i.HasValue frames 0 (.string s))
    (hindex : i.HasValue frames 1 (.int index)) (hr : i.HasValue frames 2 (.string r)) :
    i.setChar frames = i.indexIn s index >>= fun position =>
      match r.toList with
      | [] => .error .emptyReplacement
      | c :: _ => .ok (.assign v (.string (.ofList (s.toList.set position c)))) := by
  unfold setChar
  rw [varAt_eq_ok_iff.2 hv, wordAt_eq_ok_iff.2 hindex, stringAt_eq_ok_iff.2 hr]
  change i.stringIn frames v >>= _ = _
  rw [stringIn_eq_ok_iff.2 (hs.holds hv)]
  rfl

end Instruction

namespace Opcode

open Instruction (IndexesIn)

variable {s r : String} {n k index : Word} {result : Value}

/-- An opcode that looks up a character of a string and makes a value of it. -/
theorem lookup_computes_iff {op : Opcode} {value : Char → Value} (hfirst : op.firstSource = 1)
    (hstores : ∀ (i : Instruction) (labels : LabelTable) (m : Machine), i.opcode = op →
      i.Stores (i.effect labels m) fun result =>
        ∃ s, i.HasValue m.frames 1 (.string s) ∧ ∃ index, i.HasValue m.frames 2 (.int index) ∧
          ∃ c, (IndexesIn s index ∧ s.toList[index.toInt.toNat]? = some c) ∧ result = value c) :
    op.Computes [.string s, .int index] result ↔
      ∃ c, Text.character? s index.toInt = some c ∧ result = value c := by
  apply computes_iff_of_stores
  intro i labels m hop hvalues
  rcases hvalues.from 1 hop hfirst with ⟨hs, hindex, -⟩
  refine (hstores i labels m hop).congr fun result => ?_
  rw [Instruction.exists_hasValue_iff Value.string.inj hs,
    Instruction.exists_hasValue_iff Value.int.inj hindex]
  simp only [Instruction.character?_eq_some_iff]

theorem getChar_computes_iff :
    getChar.Computes [.string s, .int index] result ↔
      ∃ c, Text.character? s index.toInt = some c ∧ result = .string (.singleton c) := by
  refine lookup_computes_iff rfl fun i labels m hop => ?_
  simp only [Instruction.effect, hop]
  exact Instruction.getChar_stores

theorem intOfChar_computes_iff :
    intOfChar.Computes [.string s, .int index] result ↔
      ∃ c, Text.character? s index.toInt = some c ∧
        result = .int (Instruction.wordOfChar c) := by
  refine lookup_computes_iff rfl fun i labels m hop => ?_
  simp only [Instruction.effect, hop]
  exact Instruction.intOfChar_stores

theorem setChar_computes_iff :
    setChar.Computes [.string s, .int index, .string r] result ↔
      ∃ c rest, IndexesIn s index ∧ r.toList = c :: rest ∧
        result = .string (Text.replace s index.toInt c) := by
  apply computes_iff_of_stores
  intro i labels m hop hvalues
  rcases hvalues.from 0 hop rfl with ⟨hs, hindex, hr, -⟩
  simp only [Instruction.effect, hop]
  refine Instruction.setChar_stores.congr fun result => ?_
  constructor
  · intro h
    rcases h with ⟨s', index', r', c, rest, hs', hindex', hr', hbounds, hc, hresult⟩
    rw [hs'.string_unique hs, hindex'.int_unique hindex] at hbounds hresult
    rw [hr'.string_unique hr] at hc
    exact ⟨c, rest, hbounds, hc, hresult⟩
  · intro h
    rcases h with ⟨c, rest, hbounds, hc, hresult⟩
    exact ⟨s, index, r, c, rest, hs, hindex, hr, hbounds, hc, hresult⟩

theorem concat_computes_iff :
    concat.Computes [.string s, .string r] result ↔ result = .string (s ++ r) := by
  apply computes_iff_of_stores
  intro i labels m hop hvalues
  rcases hvalues.from 1 hop rfl with ⟨hs, hr, -⟩
  simp only [Instruction.effect, hop]
  refine Instruction.concat_stores.congr fun result => ?_
  rw [Instruction.exists_hasValue_iff Value.string.inj hs,
    Instruction.exists_hasValue_iff Value.string.inj hr]

theorem length_computes_iff : length.Computes [.string s] (.int n) ↔ n.toInt = s.length := by
  have hresult : ∀ result, length.Computes [.string s] result ↔
      ∃ n, Word.ofInt? s.length = some n ∧ result = .int n := by
    intro result
    apply computes_iff_of_stores
    intro i labels m hop hvalues
    rcases hvalues.from 1 hop rfl with ⟨hs, -⟩
    simp only [Instruction.effect, hop]
    exact Instruction.length_stores.congr fun result =>
      Instruction.exists_hasValue_iff Value.string.inj hs
  rw [hresult, ← Word.ofInt?_eq_some_iff]
  simp

/-! ## Values that are refused -/

/-- An opcode that looks up a character of a string refuses a number that is no index. -/
theorem lookup_fails {op : Opcode} (hfirst : op.firstSource = 1)
    (heffect : ∀ (i : Instruction) (labels : LabelTable) (m : Machine), i.opcode = op →
      ∃ f : Char → Except Fault Effect, i.effect labels m = do
        let s ← i.stringAt m.frames 1
        let index ← i.wordAt m.frames 2
        let c ← i.charAt s index
        f c)
    (h : ¬ IndexesIn s index) :
    op.Fails [.string s, .int index] (.indexOutOfRange op index s.length) := by
  apply fails_of_effect
  intro i labels m hop hvalues _
  rcases hvalues.from 1 hop hfirst with ⟨hs, hindex, -⟩
  rcases heffect i labels m hop with ⟨f, hf⟩
  rw [hf, Instruction.stringAt_eq_ok_iff.2 hs, Instruction.wordAt_eq_ok_iff.2 hindex]
  change i.charAt s index >>= f = _
  rw [Instruction.charAt_of_outside h, hop]
  rfl

theorem getChar_fails (h : ¬ IndexesIn s index) :
    getChar.Fails [.string s, .int index] (.indexOutOfRange .getChar index s.length) := by
  refine lookup_fails rfl (fun i labels m hop => ?_) h
  simp only [Instruction.effect, hop]
  exact ⟨_, rfl⟩

theorem intOfChar_fails (h : ¬ IndexesIn s index) :
    intOfChar.Fails [.string s, .int index] (.indexOutOfRange .intOfChar index s.length) := by
  refine lookup_fails rfl (fun i labels m hop => ?_) h
  simp only [Instruction.effect, hop]
  exact ⟨_, rfl⟩

/-- A number that is no index is refused whatever the replacement is. -/
theorem setChar_fails (h : ¬ IndexesIn s index) :
    setChar.Fails [.string s, .int index, .string r]
      (.indexOutOfRange .setChar index s.length) := by
  apply fails_of_effect
  intro i labels m hop hvalues htarget
  rcases hvalues.from 0 hop rfl with ⟨hs, hindex, hr, -⟩
  rcases htarget with ⟨v, hv, -⟩
  simp only [Instruction.effect, hop]
  rw [Instruction.setChar_of_values hv hs hindex hr, Instruction.indexIn_of_outside h, hop]
  rfl

/-- An index is not enough without a character to put there. -/
theorem setChar_fails_empty (h : IndexesIn s index) :
    setChar.Fails [.string s, .int index, .string ""] .emptyReplacement := by
  apply fails_of_effect
  intro i labels m hop hvalues htarget
  rcases hvalues.from 0 hop rfl with ⟨hs, hindex, hr, -⟩
  rcases htarget with ⟨v, hv, -⟩
  simp only [Instruction.effect, hop]
  rw [Instruction.setChar_of_values hv hs hindex hr, Instruction.indexIn_eq_ok_iff.2 ⟨h, rfl⟩]
  rfl

/-! ## Laws -/

/-- The instructions that take a character of a string out or put one in, by their opcodes and the
values that they are given. -/
def indexing (s : String) (index : Word) (r : String) : List (Opcode × List Value) :=
  [(getChar, [.string s, .int index]), (intOfChar, [.string s, .int index]),
    (setChar, [.string s, .int index, .string r])]

/-- The laws of an index into a string `s` of length `n`, with a replacement `r`. -/
structure Indexed (s r : String) (n index : Word) : Prop where
  /-- All three refuse a number exactly if it is negative or not less than the length. -/
  outside : ∀ op values, (op, values) ∈ indexing s index r →
    (op.Fails values (.indexOutOfRange op index s.length) ↔ index < 0 ∨ n ≤ index)
  /-- Every other number is the index of a character. -/
  inside : 0 ≤ index → index < n → ∃ c,
    getChar.Computes [.string s, .int index] (.string (.singleton c)) ∧
      intOfChar.Computes [.string s, .int index] (.int (Instruction.wordOfChar c))
  empty : 0 ≤ index → index < n → r = "" →
    setChar.Fails [.string s, .int index, .string r] .emptyReplacement
  nonempty : 0 ≤ index → index < n → r ≠ "" →
    ∃ result, setChar.Computes [.string s, .int index, .string r] result
  /-- What `SETCHAR` stores has the same length, the first character of the replacement at the
  index, and the characters of the string everywhere else. -/
  changed : ∀ result, setChar.Computes [.string s, .int index, .string r] result →
    ∃ t c rest, result = .string t ∧ length.Computes [.string t] (.int n) ∧ r.toList = c :: rest ∧
      getChar.Computes [.string t, .int index] (.string (.singleton c)) ∧
      ∀ other, other ≠ index → ∀ result,
        getChar.Computes [.string t, .int other] result ↔
          getChar.Computes [.string s, .int other] result
  /-- The replacement may be read from the target, which is then the string itself. -/
  aliased : ∀ (i : Instruction) (labels : LabelTable) (m : Machine) (v : Variable),
    i.opcode = .setChar → i.operands[0]? = some (.var v) → i.operands[2]? = some (.var v) →
    m.frames.Holds v (some (.string s)) → i.HasValue m.frames 1 (.int index) →
    ∀ result, setChar.Computes [.string s, .int index, .string s] result →
      i.Delivers labels m result

/-- The laws of the concatenation of a string `s` of length `n` and a string `r` of length `k`. -/
structure Concatenated (s r : String) (n k : Word) : Prop where
  first : length.Computes [.string s] (.int n)
  second : length.Computes [.string r] (.int k)
  computes : concat.Computes [.string s, .string r] (.string (s ++ r))
  length : ∃ sum : Word, Opcode.length.Computes [.string (s ++ r)] (.int sum) ∧
    sum.toInt = n.toInt + k.toInt
  before : ∀ index, index < n → ∀ result,
    getChar.Computes [.string (s ++ r), .int index] result ↔
      getChar.Computes [.string s, .int index] result
  behind : ∀ index, n ≤ index → ∃ rest : Word, rest.toInt = index.toInt - n.toInt ∧ ∀ result,
    getChar.Computes [.string (s ++ r), .int index] result ↔
      getChar.Computes [.string r, .int rest] result

theorem indexesIn_iff (hn : n.toInt = s.length) : IndexesIn s index ↔ 0 ≤ index ∧ index < n := by
  rw [Int64.le_iff_toInt_le, Int64.lt_iff_toInt_lt, hn]
  rfl

theorem not_indexesIn_iff (hn : n.toInt = s.length) :
    ¬ IndexesIn s index ↔ index < 0 ∨ n ≤ index := by
  rw [indexesIn_iff hn, not_and_or, Int64.not_le, Int64.not_lt]

/-- Every index has a character that can be taken out. -/
theorem exists_lookup (h : IndexesIn s index) : ∃ c,
    getChar.Computes [.string s, .int index] (.string (.singleton c)) ∧
      intOfChar.Computes [.string s, .int index] (.int (Instruction.wordOfChar c)) := by
  rcases Text.exists_character?_iff.2 h with ⟨c, hc⟩
  exact ⟨c, getChar_computes_iff.2 ⟨c, hc, rfl⟩, intOfChar_computes_iff.2 ⟨c, hc, rfl⟩⟩

/-- Every index can be given the first character of another string. -/
theorem exists_setChar (h : IndexesIn s index) (hr : r ≠ "") :
    ∃ result, setChar.Computes [.string s, .int index, .string r] result := by
  rcases Instruction.exists_toList_cons_iff.2 hr with ⟨c, rest, hc⟩
  exact ⟨_, setChar_computes_iff.2 ⟨c, rest, h, hc, rfl⟩⟩

/-- The instructions refuse what is no index, and nothing else with this fault. -/
theorem indexing_fails_iff {op : Opcode} {values : List Value}
    (hmem : (op, values) ∈ indexing s index r) :
    op.Fails values (.indexOutOfRange op index s.length) ↔ ¬ IndexesIn s index := by
  simp only [indexing, List.mem_cons, Prod.mk.injEq, List.not_mem_nil, or_false] at hmem
  rcases hmem with ⟨rfl, rfl⟩ | ⟨rfl, rfl⟩ | ⟨rfl, rfl⟩
  · refine ⟨fun hfails h => ?_, getChar_fails⟩
    rcases exists_lookup h with ⟨c, hget, -⟩
    exact hget.not_fails hfails
  · refine ⟨fun hfails h => ?_, intOfChar_fails⟩
    rcases exists_lookup h with ⟨c, -, hint⟩
    exact hint.not_fails hfails
  · refine ⟨fun hfails h => ?_, setChar_fails⟩
    by_cases hr : r = ""
    · -- An index without a replacement is refused as well, but with another fault.
      subst hr
      cases hfails.unique (setChar_fails_empty h)
    · rcases exists_setChar h hr with ⟨result, hset⟩
      exact hset.not_fails hfails

theorem getChar_computes_congr {t : String} {other : Word}
    (h : Text.character? t other.toInt = Text.character? s index.toInt) (result : Value) :
    getChar.Computes [.string t, .int other] result ↔
      getChar.Computes [.string s, .int index] result := by
  rw [getChar_computes_iff, getChar_computes_iff, h]

theorem setChar_changes (hn : n.toInt = s.length)
    (h : setChar.Computes [.string s, .int index, .string r] result) :
    ∃ t c rest, result = .string t ∧ length.Computes [.string t] (.int n) ∧ r.toList = c :: rest ∧
      getChar.Computes [.string t, .int index] (.string (.singleton c)) ∧
      ∀ other, other ≠ index → ∀ result,
        getChar.Computes [.string t, .int other] result ↔
          getChar.Computes [.string s, .int other] result := by
  rcases setChar_computes_iff.1 h with ⟨c, rest, hbounds, hc, rfl⟩
  refine ⟨_, c, rest, rfl, ?_, hc, ?_, ?_⟩
  · rw [length_computes_iff, Text.length_replace, hn]
  · exact getChar_computes_iff.2 ⟨c, Text.character?_replace_self hbounds.1 hbounds.2, rfl⟩
  · intro other hother
    have hne : other.toInt ≠ index.toInt := fun heq => hother (Int64.toInt_inj.1 heq)
    exact getChar_computes_congr (Text.character?_replace_of_ne hbounds.1 hne)

theorem indexed (r : String) (hn : n.toInt = s.length) (index : Word) : Indexed s r n index where
  outside := by
    intro op values hmem
    rw [indexing_fails_iff hmem, not_indexesIn_iff hn]
  inside := by
    intro hlow hhigh
    exact exists_lookup ((indexesIn_iff hn).2 ⟨hlow, hhigh⟩)
  empty := by
    intro hlow hhigh hr
    rw [hr]
    exact setChar_fails_empty ((indexesIn_iff hn).2 ⟨hlow, hhigh⟩)
  nonempty := by
    intro hlow hhigh hr
    exact exists_setChar ((indexesIn_iff hn).2 ⟨hlow, hhigh⟩) hr
  changed := by
    intro result h
    exact setChar_changes hn h
  aliased := by
    intro i labels m v hop hfirst hthird hholds hindex result h
    refine h i labels m hop ?_ ⟨v, hfirst, _, hholds⟩
    unfold Instruction.HasValues
    rw [hop]
    exact ⟨⟨_, hfirst, hholds⟩, hindex, ⟨_, hthird, hholds⟩, trivial⟩

theorem concatenated {sum : Word} (hn : n.toInt = s.length) (hk : k.toInt = r.length)
    (hsum : sum.toInt = n.toInt + k.toInt) : Concatenated s r n k where
  first := length_computes_iff.2 hn
  second := length_computes_iff.2 hk
  computes := concat_computes_iff.2 rfl
  length := by
    refine ⟨sum, length_computes_iff.2 ?_, hsum⟩
    calc
      sum.toInt = n.toInt + k.toInt := hsum
      _ = s.length + r.length := by rw [hn, hk]
      _ = (s ++ r).length := by simp
  before := by
    intro index hindex
    rw [Int64.lt_iff_toInt_lt, hn] at hindex
    refine getChar_computes_congr ?_
    rw [Text.character?_append, if_pos hindex]
  behind := by
    intro index hindex
    rw [Int64.le_iff_toInt_le] at hindex
    -- What is left of the index is not negative and not greater than the index.
    have hrange : Word.InRange (index.toInt - n.toInt) := by
      have hhigh := Word.inRange_toInt index
      unfold Word.InRange at hhigh ⊢
      omega
    rcases Word.exists_toInt_eq hrange with ⟨rest, hrest⟩
    refine ⟨rest, hrest, getChar_computes_congr ?_⟩
    rw [Text.character?_append, if_neg (by omega), hrest, hn]

/-- `GETCHAR`, `STRI2INT` and `SETCHAR` refuse the same indices, `SETCHAR` changes one character and
keeps the length, and the lengths and characters of a concatenation are those of its parts.  All
lengths are assumed to be words. -/
theorem strings_indexed (s r : String) :
    (Word.InRange s.length → ∃ n : Word, length.Computes [.string s] (.int n) ∧
      n.toInt = s.length ∧ ∀ index, Indexed s r n index) ∧
    (Word.InRange (s.length + r.length) → ∃ n k, Concatenated s r n k) := by
  constructor
  · intro hs
    rcases Word.exists_toInt_eq hs with ⟨n, hn⟩
    exact ⟨n, length_computes_iff.2 hn, hn, indexed r hn⟩
  · intro hsum
    have hs : Word.InRange s.length := by
      unfold Word.InRange at hsum ⊢
      omega
    have hr : Word.InRange r.length := by
      unfold Word.InRange at hsum ⊢
      omega
    rcases Word.exists_toInt_eq hs with ⟨n, hn⟩
    rcases Word.exists_toInt_eq hr with ⟨k, hk⟩
    rcases Word.exists_toInt_eq hsum with ⟨sum, hsum⟩
    exact ⟨n, k, concatenated hn hk (by rw [hsum, hn, hk])⟩

/-- Characters of two bytes count once, in a string and in its concatenation with another. -/
theorem strings_indexed_accents :
    Word.InRange "žluť".length ∧
    (∃ n : Word, length.Computes [.string "žluť"] (.int n) ∧ n.toInt = "žluť".length ∧
      ∀ index, Indexed "žluť" "ů" n index) ∧
    Word.InRange ("žluť".length + "ů".length) ∧ ∃ n k, Concatenated "žluť" "ů" n k := by
  have hs : Word.InRange "žluť".length := by
    unfold Word.InRange
    decide +kernel
  have hsum : Word.InRange ("žluť".length + "ů".length) := by
    unfold Word.InRange
    decide +kernel
  exact ⟨hs, (strings_indexed "žluť" "ů").1 hs, hsum, (strings_indexed "žluť" "ů").2 hsum⟩

end Opcode

end FrameCode
