import FrameCode.Proofs.Effects
import FrameCode.Proofs.FaultOrigin
import FrameCode.Proofs.FloorDivision

/-!
# When an instruction succeeds

The exact condition under which an instruction whose operands fit its opcode succeeds, stated on the
state before it.  The condition has two parts: what each operand position asks of the operand there,
and what the opcode asks beyond that.

- `Instruction.PositionReady`: what a position asks of its operand
- `Instruction.Demand`: what an opcode asks beyond its positions
- `Instruction.execute_done_iff`: an instruction succeeds exactly if both are met
-/

namespace FrameCode

/-! ## The condition -/

namespace Channel

/-- A channel has room for the whole of a text. -/
def Takes (channel : Channel) (text : String) : Prop :=
  ∀ n, channel.room = some n → text.utf8ByteSize ≤ n

theorem fits_iff_takes {channel : Channel} {text : String} :
    channel.fits text = true ↔ channel.Takes text := by
  unfold fits Takes
  cases channel.room with
  | none => simp
  | some n => simp

end Channel

namespace Instruction

/-- What an instruction asks of a variable that it writes to. -/
def TargetReady (i : Instruction) (frames : Frames) (v : Variable) : Prop :=
  match i.opcode with
  | .declare => frames.Lacks v
  | .setChar => ∃ s, frames.Holds v (some (.string s))
  | _ => frames.Declares v

/-- What an operand position asks of the operand there.  Only `TYPE` puts up with a variable that
holds nothing. -/
def PositionReady (i : Instruction) (frames : Frames) (k : Nat) : OperandKind → Prop
  | .var => ∃ v, i.operands[k]? = some (.var v) ∧ i.TargetReady frames v
  | .symbol =>
    if i.opcode = .typeOf then ∃ o content, i.operands[k]? = some o ∧ o.Contains frames content
    else ∃ value, i.HasValue frames k value
  | .int => ∃ n, i.HasValue frames k (.int n)
  | .bool => ∃ b, i.HasValue frames k (.bool b)
  | .string => ∃ s, i.HasValue frames k (.string s)
  | .label | .type => True

/-- The second and third operand have one type. -/
def SameTag (i : Instruction) (frames : Frames) : Prop :=
  ∀ a b, i.HasValue frames 1 a → i.HasValue frames 2 b → a.tag = b.tag

/-- The second and third operand are equal. -/
def SameValue (i : Instruction) (frames : Frames) : Prop :=
  ∃ value, i.HasValue frames 1 value ∧ i.HasValue frames 2 value

/-- The first operand is a label of the program. -/
def LabelKnown (i : Instruction) (labels : LabelTable) : Prop :=
  ∃ name, i.operands[0]? = some (.label name) ∧ labels.contains name = true

/-- An integer operation has a result on the second and third operand. -/
def ResultFits (i : Instruction) (frames : Frames) (operation : Int → Int → Int) : Prop :=
  ∀ a b, i.HasValue frames 1 (.int a) → i.HasValue frames 2 (.int b) →
    Word.InRange (operation a.toInt b.toInt)

/-- A number is the code point of a character: it is in range and not a surrogate. -/
def IsCodePoint (n : Int) : Prop :=
  0 ≤ n ∧ n ≤ 0x10ffff ∧ ¬ (0xd800 ≤ n ∧ n ≤ 0xdfff)

/-- What an instruction asks beyond its single operands, by its opcode. -/
def Demand (i : Instruction) (labels : LabelTable) (m : Machine) : Prop :=
  match i.opcode with
  | .move | .createFrame | .declare | .push | .and | .or | .not | .concat | .typeOf | .label => True
  | .pushFrame => m.frames.temporary ≠ none
  | .popFrame => m.frames.locals ≠ []
  | .call | .jump => i.LabelKnown labels
  | .ret => m.callStack ≠ []
  | .pop => m.dataStack ≠ []
  | .add => i.ResultFits m.frames (· + ·)
  | .sub => i.ResultFits m.frames (· - ·)
  | .mul => i.ResultFits m.frames (· * ·)
  | .floorDiv => ¬ i.HasValue m.frames 2 (.int 0) ∧ i.ResultFits m.frames Int.fdiv
  | .less | .greater | .equal => i.SameTag m.frames
  | .charOfInt => ∀ n, i.HasValue m.frames 1 (.int n) → IsCodePoint n.toInt
  | .intOfChar | .getChar =>
    ∀ s index, i.HasValue m.frames 1 (.string s) → i.HasValue m.frames 2 (.int index) →
      IndexesIn s index
  | .setChar =>
    (∀ s index, i.HasValue m.frames 0 (.string s) → i.HasValue m.frames 1 (.int index) →
      IndexesIn s index) ∧ ¬ i.HasValue m.frames 2 (.string "")
  | .length => ∀ s, i.HasValue m.frames 1 (.string s) → Word.InRange s.length
  | .read => Line.IsText (Line.next m.input).1
  | .write => ∀ value, i.HasValue m.frames 0 value → m.output.Takes value.text
  | .debugWrite => ∀ value, i.HasValue m.frames 0 value → m.diagnostics.Takes value.text
  | .debugDump => m.diagnostics.Takes (i.dump m)
  | .jumpIfEqual => i.SameTag m.frames ∧ (i.SameValue m.frames → i.LabelKnown labels)
  | .jumpIfNotEqual => i.SameTag m.frames ∧ (¬ i.SameValue m.frames → i.LabelKnown labels)

/-- Everything that an instruction asks of the state before it. -/
def Ready (i : Instruction) (labels : LabelTable) (m : Machine) : Prop :=
  (∀ k kind, i.opcode.signature[k]? = some kind → i.PositionReady m.frames k kind) ∧
    i.Demand labels m

/-! ## Relations with one value -/

section Unique

variable {α β : Type} {P : α → Prop} {P' : β → Prop}

theorem exists_and_iff_of_unique {Q : α → Prop} (hP : ∀ {a b}, P a → P b → a = b) :
    (∃ a, P a ∧ Q a) ↔ (∃ a, P a) ∧ ∀ a, P a → Q a := by
  constructor
  · intro h
    rcases h with ⟨a, ha, hQ⟩
    exact ⟨⟨a, ha⟩, fun b hb => hP ha hb ▸ hQ⟩
  · intro h
    rcases h with ⟨⟨a, ha⟩, hQ⟩
    exact ⟨a, ha, hQ a ha⟩

/-- There is a result from one operand exactly if there is the operand, and it has a result. -/
theorem exists_result_iff {R : α → Value → Prop} {S : α → Prop} (hP : ∀ {a b}, P a → P b → a = b)
    (hR : ∀ a, (∃ value, R a value) ↔ S a) :
    (∃ value, ∃ a, P a ∧ R a value) ↔ (∃ a, P a) ∧ ∀ a, P a → S a := by
  rw [← exists_and_iff_of_unique hP, exists_comm]
  simp only [exists_and_left, hR]

/-- The same for two operands. -/
theorem exists_result_of_two_iff {R : α → β → Value → Prop} {S : α → β → Prop}
    (hP : ∀ {a b}, P a → P b → a = b) (hP' : ∀ {a b}, P' a → P' b → a = b)
    (hR : ∀ a b, (∃ value, R a b value) ↔ S a b) :
    (∃ value, ∃ a, P a ∧ ∃ b, P' b ∧ R a b value) ↔
      (∃ a, P a) ∧ (∃ b, P' b) ∧ ∀ a b, P a → P' b → S a b := by
  rw [exists_result_iff hP fun a => exists_result_iff hP' (hR a)]
  constructor
  · intro h
    rcases h with ⟨⟨a, ha⟩, hrest⟩
    exact ⟨⟨a, ha⟩, (hrest a ha).1, fun a b ha hb => (hrest a ha).2 b hb⟩
  · intro h
    rcases h with ⟨hfirst, hsecond, hrest⟩
    exact ⟨hfirst, fun a ha => ⟨hsecond, fun b hb => hrest a b ha hb⟩⟩

end Unique

variable {i : Instruction} {labels : LabelTable} {m : Machine} {frames : Frames} {k : Nat}

theorem HasValue.int_unique {a b : Word} (ha : i.HasValue frames k (.int a))
    (hb : i.HasValue frames k (.int b)) : a = b :=
  Value.int.inj (ha.unique hb)

theorem HasValue.string_unique {a b : String} (ha : i.HasValue frames k (.string a))
    (hb : i.HasValue frames k (.string b)) : a = b :=
  Value.string.inj (ha.unique hb)

/-! ## Success as an enabled effect -/

/-- An instruction succeeds exactly if it has an effect that is enabled. -/
theorem exists_execute_done_iff :
    (∃ after, i.execute labels m = .done after) ↔
      ∃ e, i.effect labels m = .ok e ∧ e.Enabled m := by
  simp only [execute_eq_done_iff, ← Effect.exists_apply_done_iff]
  constructor
  · intro h
    rcases h with ⟨after, e, heffect, happly⟩
    exact ⟨e, heffect, after, happly⟩
  · intro h
    rcases h with ⟨e, heffect, after, happly⟩
    exact ⟨after, e, heffect, happly⟩

/-- The first operand is a variable that can be assigned. -/
def TargetDeclared (i : Instruction) (frames : Frames) : Prop :=
  ∃ v, i.operands[0]? = some (.var v) ∧ frames.Declares v

/-- A storing instruction succeeds exactly if there is a place for its value, and a value. -/
theorem Stores.succeeds_iff {computation : Except Fault Effect} {result : Value → Prop}
    {sources : Prop} (hstores : i.Stores computation result)
    (hresult : (∃ value, result value) ↔ sources) :
    (∃ e, computation = .ok e ∧ e.Enabled m) ↔ i.TargetDeclared m.frames ∧ sources := by
  rw [← hresult]
  constructor
  · intro h
    rcases h with ⟨e, he, hon⟩
    rcases (hstores e).1 he with ⟨value, hvalue, v, hv, rfl⟩
    exact ⟨⟨v, hv, hon⟩, value, hvalue⟩
  · intro h
    rcases h with ⟨⟨v, hv, hdeclared⟩, value, hvalue⟩
    exact ⟨.assign v value, (hstores _).2 ⟨value, hvalue, v, hv, rfl⟩, hdeclared⟩

/-! ## When there is a result -/

/-- Arithmetic whose operation is a mathematical one, checked for its range. -/
theorem exists_arithmetic_iff {operation : Word → Word → Option Word} {exact : Int → Int → Int}
    (hoperation : ∀ a b, operation a b = Word.ofInt? (exact a.toInt b.toInt)) :
    (∃ value : Value, ∃ a, i.HasValue frames 1 (.int a) ∧ ∃ b, i.HasValue frames 2 (.int b) ∧
        ∃ n, operation a b = some n ∧ value = .int n) ↔
      (∃ a, i.HasValue frames 1 (.int a)) ∧ (∃ b, i.HasValue frames 2 (.int b)) ∧
        i.ResultFits frames exact := by
  refine exists_result_of_two_iff HasValue.int_unique HasValue.int_unique fun a b => ?_
  rw [← Word.exists_ofInt?_iff, ← hoperation]
  simp

/-- Division, which asks for a divisor other than zero first. -/
theorem exists_division_iff :
    (∃ value : Value, ∃ a, i.HasValue frames 1 (.int a) ∧ ∃ b, i.HasValue frames 2 (.int b) ∧
        b ≠ 0 ∧ ∃ n, Word.floorDiv? a b = some n ∧ value = .int n) ↔
      (∃ a, i.HasValue frames 1 (.int a)) ∧ (∃ b, i.HasValue frames 2 (.int b)) ∧
        ¬ i.HasValue frames 2 (.int 0) ∧ i.ResultFits frames Int.fdiv := by
  have hresult : ∀ a b : Word,
      (∃ value : Value, b ≠ 0 ∧ ∃ n, Word.floorDiv? a b = some n ∧ value = .int n) ↔
        b ≠ 0 ∧ Word.InRange (a.toInt.fdiv b.toInt) := by
    intro a b
    rw [exists_and_left]
    refine and_congr_right fun hzero => ?_
    rw [← Word.exists_ofInt?_iff, ← Word.floorDiv?_of_ne_zero hzero]
    simp
  rw [exists_result_of_two_iff HasValue.int_unique HasValue.int_unique hresult]
  -- The divisor is one number, so it is not zero exactly if zero is not the divisor.
  constructor
  · intro h
    rcases h with ⟨⟨a, ha⟩, hb, hrest⟩
    exact ⟨⟨a, ha⟩, hb, fun hzero => (hrest a 0 ha hzero).1 rfl,
      fun a b ha hb => (hrest a b ha hb).2⟩
  · intro h
    rcases h with ⟨ha, hb, hzero, hrange⟩
    exact ⟨ha, hb, fun a b ha hb => ⟨fun h0 => hzero (h0 ▸ hb), hrange a b ha hb⟩⟩

/-- The two operands of a comparison, whatever is done with them. -/
theorem exists_pair_iff :
    (∃ pair : Value × Value, i.HasValue frames 1 pair.1 ∧ i.HasValue frames 2 pair.2 ∧
        pair.1.tag = pair.2.tag) ↔
      (∃ a, i.HasValue frames 1 a) ∧ (∃ b, i.HasValue frames 2 b) ∧ i.SameTag frames := by
  constructor
  · intro h
    rcases h with ⟨⟨a, b⟩, ha, hb, htag⟩
    refine ⟨⟨a, ha⟩, ⟨b, hb⟩, ?_⟩
    intro a' b' ha' hb'
    rwa [ha'.unique ha, hb'.unique hb]
  · intro h
    rcases h with ⟨⟨a, ha⟩, ⟨b, hb⟩, htag⟩
    exact ⟨(a, b), ha, hb, htag a b ha hb⟩

theorem exists_comparison_iff {accept : Ordering → Bool} :
    (∃ value : Value, ∃ pair : Value × Value,
        (i.HasValue frames 1 pair.1 ∧ i.HasValue frames 2 pair.2 ∧ pair.1.tag = pair.2.tag) ∧
        ∃ ordering, pair.1.compare? pair.2 = some ordering ∧ value = .bool (accept ordering)) ↔
      (∃ a, i.HasValue frames 1 a) ∧ (∃ b, i.HasValue frames 2 b) ∧ i.SameTag frames := by
  rw [← exists_pair_iff, exists_comm]
  refine exists_congr fun pair => ?_
  rw [exists_and_left]
  refine and_iff_left_of_imp fun hpair => ?_
  rcases Value.exists_compare?_iff.2 hpair.2.2 with ⟨ordering, hordering⟩
  exact ⟨_, ordering, hordering, rfl⟩

theorem exists_equality_iff :
    (∃ value : Value, ∃ pair : Value × Value,
        (i.HasValue frames 1 pair.1 ∧ i.HasValue frames 2 pair.2 ∧ pair.1.tag = pair.2.tag) ∧
        value = .bool (pair.1 == pair.2)) ↔
      (∃ a, i.HasValue frames 1 a) ∧ (∃ b, i.HasValue frames 2 b) ∧ i.SameTag frames := by
  rw [← exists_pair_iff, exists_comm]
  simp

/-- The code points are those of the characters. -/
theorem exists_toNat_eq_iff {n : Int} : (∃ c : Char, n = c.toNat) ↔ IsCodePoint n := by
  constructor
  · intro h
    rcases h with ⟨c, rfl⟩
    have hvalid : c.toNat.isValidChar := c.valid
    unfold IsCodePoint
    rcases hvalid with hlow | hhigh <;> omega
  · intro h
    rcases h with ⟨hlow, hhigh, hsurrogate⟩
    have hvalid : n.toNat.isValidChar := by
      unfold Nat.isValidChar
      omega
    -- A valid code point is the code point of the character made from it.
    refine ⟨Char.ofNat n.toNat, ?_⟩
    rw [toNat_ofNat_of_isValidChar hvalid, Int.toNat_of_nonneg hlow]

theorem exists_charOfInt_iff :
    (∃ value : Value, ∃ n : Word, i.HasValue frames 1 (.int n) ∧
        ∃ c : Char, n.toInt = c.toNat ∧ value = .string (.singleton c)) ↔
      (∃ n, i.HasValue frames 1 (.int n)) ∧
        ∀ n, i.HasValue frames 1 (.int n) → IsCodePoint n.toInt := by
  refine exists_result_iff HasValue.int_unique fun n => ?_
  rw [← exists_toNat_eq_iff]
  simp

/-- The character that `STRI2INT` and `GETCHAR` look up, whatever they make of it. -/
theorem exists_character_iff {value : Char → Value} :
    (∃ result : Value, ∃ s, i.HasValue frames 1 (.string s) ∧
        ∃ index, i.HasValue frames 2 (.int index) ∧
        ∃ c, (IndexesIn s index ∧ s.toList[index.toInt.toNat]? = some c) ∧ result = value c) ↔
      (∃ s, i.HasValue frames 1 (.string s)) ∧ (∃ index, i.HasValue frames 2 (.int index)) ∧
        ∀ s index, i.HasValue frames 1 (.string s) → i.HasValue frames 2 (.int index) →
          IndexesIn s index := by
  refine exists_result_of_two_iff HasValue.string_unique HasValue.int_unique fun s index => ?_
  constructor
  · intro h
    rcases h with ⟨_, c, ⟨hbounds, -⟩, -⟩
    exact hbounds
  · intro hbounds
    rcases exists_getElem?_of_indexesIn hbounds with ⟨c, hc⟩
    exact ⟨_, c, ⟨hbounds, hc⟩, rfl⟩

theorem exists_length_iff :
    (∃ value : Value, ∃ s, i.HasValue frames 1 (.string s) ∧
        ∃ n, Word.ofInt? s.length = some n ∧ value = .int n) ↔
      (∃ s, i.HasValue frames 1 (.string s)) ∧
        ∀ s : String, i.HasValue frames 1 (.string s) → Word.InRange s.length := by
  refine exists_result_iff HasValue.string_unique fun s => ?_
  rw [← Word.exists_ofInt?_iff]
  simp

theorem exists_typeOf_iff {value : Option Value → Value} :
    (∃ result : Value, ∃ content, (∃ o, i.operands[1]? = some o ∧ o.Contains frames content) ∧
        result = value content) ↔
      ∃ o content, i.operands[1]? = some o ∧ o.Contains frames content := by
  constructor
  · intro h
    rcases h with ⟨_, content, ⟨o, ho, hcontent⟩, -⟩
    exact ⟨o, content, ho, hcontent⟩
  · intro h
    rcases h with ⟨o, content, ho, hcontent⟩
    exact ⟨_, content, ⟨o, ho, hcontent⟩, rfl⟩

theorem exists_toList_cons_iff {s : String} : (∃ c rest, s.toList = c :: rest) ↔ s ≠ "" := by
  rw [Ne, ← String.toList_eq_nil_iff]
  cases s.toList <;> simp

/-- The target of `SETCHAR` is looked up as an operand and assigned as a variable. -/
theorem setChar_succeeds_iff :
    (i.TargetDeclared frames ∧ ∃ value : Value, ∃ s index replacement c rest,
        i.HasValue frames 0 (.string s) ∧ i.HasValue frames 1 (.int index) ∧
        i.HasValue frames 2 (.string replacement) ∧ IndexesIn s index ∧
        replacement.toList = c :: rest ∧
        value = .string (.ofList (s.toList.set index.toInt.toNat c))) ↔
      (∃ v, i.operands[0]? = some (.var v) ∧ ∃ s, frames.Holds v (some (.string s))) ∧
        (∃ n, i.HasValue frames 1 (.int n)) ∧ (∃ s, i.HasValue frames 2 (.string s)) ∧
        (∀ s index, i.HasValue frames 0 (.string s) → i.HasValue frames 1 (.int index) →
          IndexesIn s index) ∧ ¬ i.HasValue frames 2 (.string "") := by
  constructor
  · intro h
    rcases h with ⟨⟨v, hv, -⟩, _, s, index, replacement, c, rest, hs, hindex, hreplacement, hbounds,
      hc, -⟩
    -- The operand that holds the string is the variable that is assigned.
    have hholds : frames.Holds v (some (.string s)) := by
      rcases hs with ⟨o, ho, hcontains⟩
      have hsame : o = .var v := Option.some.inj (ho.symm.trans hv)
      subst hsame
      exact hcontains
    have hnonempty : replacement ≠ "" := exists_toList_cons_iff.1 ⟨c, rest, hc⟩
    refine ⟨⟨v, hv, s, hholds⟩, ⟨index, hindex⟩, ⟨replacement, hreplacement⟩, ?_, ?_⟩
    · intro s' index' hs' hindex'
      rwa [hs'.string_unique hs, hindex'.int_unique hindex]
    · intro hempty
      exact hnonempty (hreplacement.string_unique hempty)
  · intro h
    rcases h with ⟨⟨v, hv, s, hholds⟩, ⟨index, hindex⟩, ⟨replacement, hreplacement⟩, hbounds,
      hempty⟩
    have hs : i.HasValue frames 0 (.string s) := ⟨.var v, hv, hholds⟩
    have hnonempty : replacement ≠ "" := fun h => hempty (h ▸ hreplacement)
    rcases exists_toList_cons_iff.2 hnonempty with ⟨c, rest, hc⟩
    exact ⟨⟨v, hv, _, hholds⟩, _, s, index, replacement, c, rest, hs, hindex, hreplacement,
      hbounds s index hs hindex, hc, rfl⟩

/-! ## Jumps -/

theorem exists_destination_iff :
    (∃ position, i.destination labels = .ok position) ↔ i.LabelKnown labels := by
  unfold LabelKnown
  simp only [destination_eq_ok_iff, ← LabelTable.isSome_position?, Option.isSome_iff_exists]
  constructor
  · intro h
    rcases h with ⟨position, name, hname, hposition⟩
    exact ⟨name, hname, position, hposition⟩
  · intro h
    rcases h with ⟨name, hname, position, hposition⟩
    exact ⟨position, name, hname, hposition⟩

theorem sameValue_iff {a b : Value} (ha : i.HasValue frames 1 a) (hb : i.HasValue frames 2 b) :
    i.SameValue frames ↔ a = b := by
  constructor
  · intro h
    rcases h with ⟨value, ha', hb'⟩
    exact (ha.unique ha').trans (hb'.unique hb)
  · intro h
    subst h
    exact ⟨a, ha, hb⟩

/-- A conditional jump asks for its label only if it is taken. -/
theorem conditionalJump_succeeds_iff (wanted : Bool) :
    (∃ e, i.conditionalJump labels m.frames wanted = .ok e ∧ e.Enabled m) ↔
      (∃ a, i.HasValue m.frames 1 a) ∧ (∃ b, i.HasValue m.frames 2 b) ∧ i.SameTag m.frames ∧
        ((i.SameValue m.frames ↔ wanted = true) → i.LabelKnown labels) := by
  simp only [conditionalJump_eq_ok_iff]
  constructor
  · intro h
    rcases h with ⟨e, ⟨a, b, ha, hb, htag, hcases⟩, -⟩
    have hpair := exists_pair_iff.1 ⟨(a, b), ha, hb, htag⟩
    refine ⟨hpair.1, hpair.2.1, hpair.2.2, ?_⟩
    intro htaken
    rw [sameValue_iff ha hb, ← beq_iff_eq, ← Bool.eq_iff_iff] at htaken
    rcases hcases with ⟨-, position, hposition, -⟩ | ⟨hskipped, -⟩
    · exact exists_destination_iff.1 ⟨position, hposition⟩
    · exact absurd htaken hskipped
  · intro h
    rcases h with ⟨⟨a, ha⟩, ⟨b, hb⟩, htag, hlabel⟩
    -- The label is looked up only if the jump is taken.
    rw [sameValue_iff ha hb, ← beq_iff_eq, ← Bool.eq_iff_iff] at hlabel
    by_cases htaken : (a == b) = wanted
    · rcases exists_destination_iff.2 (hlabel htaken) with ⟨position, hposition⟩
      exact ⟨.jump position, ⟨a, b, ha, hb, htag a b ha hb,
        .inl ⟨htaken, position, hposition, rfl⟩⟩, trivial⟩
    · exact ⟨.skip, ⟨a, b, ha, hb, htag a b ha hb, .inr ⟨htaken, rfl⟩⟩, trivial⟩

/-- The effect of an instruction that makes it from one thing that it looks up. -/
theorem map_succeeds_iff {α : Type} {computation : Except Fault α} {f : α → Effect} :
    (∃ e, (do return f (← computation)) = Except.ok e ∧ e.Enabled m) ↔
      ∃ a, computation = .ok a ∧ (f a).Enabled m := by
  simp only [bind_eq_ok_iff, pure_eq_ok_iff]
  constructor
  · intro h
    rcases h with ⟨_, ⟨a, ha, rfl⟩, hon⟩
    exact ⟨a, ha, hon⟩
  · intro h
    rcases h with ⟨a, ha, hon⟩
    exact ⟨_, ⟨a, ha, rfl⟩, hon⟩

theorem ok_succeeds_iff {e : Effect} :
    (∃ e', (Except.ok e : Except Fault Effect) = .ok e' ∧ e'.Enabled m) ↔ e.Enabled m := by
  constructor
  · intro h
    rcases h with ⟨e', he, hon⟩
    cases he
    exact hon
  · intro hon
    exact ⟨e, rfl, hon⟩

theorem read_succeeds_iff (htype : ∃ tag, i.operands[1]? = some (.literal (.type tag))) :
    (∃ e, i.read = .ok e ∧ e.Enabled m) ↔
      i.TargetDeclared m.frames ∧ Line.IsText (Line.next m.input).1 := by
  simp only [read_eq_ok_iff]
  constructor
  · intro h
    rcases h with ⟨_, ⟨v, tag, hv, -, rfl⟩, hdeclared, hline⟩
    exact ⟨⟨v, hv, hdeclared⟩, hline⟩
  · intro h
    rcases h with ⟨⟨v, hv, hdeclared⟩, hline⟩
    rcases htype with ⟨tag, htag⟩
    exact ⟨_, ⟨v, tag, hv, htag, rfl⟩, hdeclared, hline⟩

/-- What an instruction prints is the text of one value. -/
theorem printed_succeeds_iff {channel : Channel} {f : Value → Effect}
    (hf : ∀ value, (f value).Enabled m ↔ channel.Takes value.text) :
    (∃ e, (do return f (← i.valueAt m.frames 0)) = Except.ok e ∧ e.Enabled m) ↔
      (∃ value, i.HasValue m.frames 0 value) ∧
        ∀ value, i.HasValue m.frames 0 value → channel.Takes value.text := by
  rw [map_succeeds_iff, ← exists_and_iff_of_unique HasValue.unique]
  simp only [valueAt_eq_ok_iff, hf]

/-! ## All opcodes -/

section Positions

variable {α : Type} {P : Nat → α → Prop}

theorem forall_getElem?_nil_iff : (∀ k a, ([] : List α)[k]? = some a → P k a) ↔ True := by
  simp

theorem forall_getElem?_cons_iff {first : α} {rest : List α} :
    (∀ k a, (first :: rest)[k]? = some a → P k a) ↔
      P 0 first ∧ ∀ k a, rest[k]? = some a → P (k + 1) a := by
  constructor
  · intro h
    exact ⟨h 0 first rfl, fun k a hk => h (k + 1) a (by simpa using hk)⟩
  · intro h k a hk
    cases k with
    | zero =>
      cases hk
      exact h.1
    | succ k => exact h.2 k a (by simpa using hk)

end Positions

/-- An instruction whose operands fit its opcode succeeds exactly if the state meets what its
positions and its opcode ask for. -/
theorem execute_done_iff (i : Instruction) (labels : LabelTable) (m : Machine) (hfits : i.Fits) :
    (∃ after, i.execute labels m = .done after) ↔ i.Ready labels m := by
  rw [exists_execute_done_iff]
  unfold effect Ready Demand
  -- The signature of the opcode tells the positions, and with them their conditions.
  cases hop : i.opcode <;>
    simp only [Opcode.signature, forall_getElem?_cons_iff, forall_getElem?_nil_iff,
      PositionReady, TargetReady, hop, and_true, true_and, Nat.zero_add, Nat.reduceAdd,
      reduceCtorEq, ↓reduceIte, and_assoc]
  case createFrame | pushFrame | popFrame | ret | label => exact ok_succeeds_iff
  case debugDump => exact ok_succeeds_iff.trans Channel.fits_iff_takes
  case declare =>
    refine map_succeeds_iff.trans ?_
    simp only [varAt_eq_ok_iff, Effect.Enabled]
  case pop =>
    refine map_succeeds_iff.trans ?_
    simp only [varAt_eq_ok_iff, Effect.Enabled, ← and_assoc, exists_and_right]
  case push =>
    refine map_succeeds_iff.trans ?_
    simp only [valueAt_eq_ok_iff, Effect.Enabled, and_true]
  case call | jump =>
    refine map_succeeds_iff.trans ?_
    simp only [Effect.Enabled, and_true]
    exact exists_destination_iff
  case write => exact printed_succeeds_iff fun _ => Channel.fits_iff_takes
  case debugWrite => exact printed_succeeds_iff fun _ => Channel.fits_iff_takes
  case read => exact read_succeeds_iff (hfits.type (by simp [hop, Opcode.signature]))
  case jumpIfEqual => simpa using conditionalJump_succeeds_iff true
  case jumpIfNotEqual => simpa using conditionalJump_succeeds_iff false
  -- What is left are the storing opcodes.
  case move => exact move_stores.succeeds_iff (by simp)
  case add | sub | mul =>
    exact arithmetic_stores.succeeds_iff (exists_arithmetic_iff fun _ _ => rfl)
  case floorDiv => exact division_stores.succeeds_iff exists_division_iff
  case less | greater => exact comparison_stores.succeeds_iff exists_comparison_iff
  case equal => exact equality_stores.succeeds_iff exists_equality_iff
  case and | or => exact connective_stores.succeeds_iff (by simp)
  case not => exact negation_stores.succeeds_iff (by simp)
  case charOfInt => exact charOfInt_stores.succeeds_iff exists_charOfInt_iff
  case intOfChar => exact intOfChar_stores.succeeds_iff exists_character_iff
  case getChar => exact getChar_stores.succeeds_iff exists_character_iff
  case concat => exact concat_stores.succeeds_iff (by simp)
  case length => exact length_stores.succeeds_iff exists_length_iff
  case setChar => exact (setChar_stores.succeeds_iff Iff.rfl).trans setChar_succeeds_iff
  case typeOf => exact typeOf_stores.succeeds_iff exists_typeOf_iff

/-- A conditional jump that is not taken succeeds, although no label of the program has its name. -/
theorem execute_jumpIfEqual_skip :
    (⟨.jumpIfEqual, .zero, [.label "end", .literal (.int 1), .literal (.int 2)]⟩ :
        Instruction).Fits ∧
      ∃ after, (⟨.jumpIfEqual, .zero, [.label "end", .literal (.int 1), .literal (.int 2)]⟩ :
        Instruction).execute .empty (.initial [] (.ofRoom none) (.ofRoom none)) = .done after := by
  refine ⟨by decide, (execute_done_iff _ _ _ (by decide)).2 ⟨?_, ?_, ?_⟩⟩
  · simp [Opcode.signature, forall_getElem?_cons_iff, PositionReady, HasValue, Operand.Contains]
  · intro a b ha hb
    have hleft : a = .int 1 := by simpa [HasValue, Operand.Contains] using ha
    have hright : b = .int 2 := by simpa [HasValue, Operand.Contains] using hb
    rw [hleft, hright]
    rfl
  · intro hsame
    simp [SameValue, HasValue, Operand.Contains] at hsame

end Instruction
end FrameCode
