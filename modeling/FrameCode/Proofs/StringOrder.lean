import FrameCode.Proofs.Comparison
import FrameCode.Proofs.TextLines

/-!
# The order of strings

Strings are compared by their code points.  Their bytes in UTF-8 give the same order, although the
code points take up different numbers of bytes: the first byte of a longer form is greater than that
of any shorter one, and forms of one length are digits to base 64.  So it makes no difference which
of the two a comparison of values or the names in a dump go by.

- `Text.Utf8.encode`: the bytes of a code point, as numbers
- `Text.Utf8.compareLex_encode`: the first difference between two code points is in their bytes
- `Text.compareBytes`, `Text.compareCodePoints`: two ways to compare texts
- `Text.strings_ordered_alike`: both are the order of strings
-/

namespace FrameCode

/-! ## Lists that are compared from the front -/

section Lexicographic

variable {α β : Type} {cmp : α → α → Ordering}

/-- A function that keeps the order of members keeps the order of lists. -/
theorem compareLex_map {cmp' : β → β → Ordering} {f : α → β}
    (h : ∀ a b, cmp' (f a) (f b) = cmp a b) (as bs : List α) :
    List.compareLex cmp' (as.map f) (bs.map f) = List.compareLex cmp as bs := by
  induction as generalizing bs with
  | nil => cases bs <;> rfl
  | cons a as ih =>
    cases bs with
    | nil => rfl
    | cons b bs =>
      rw [List.map_cons, List.map_cons, List.compareLex_cons_cons, List.compareLex_cons_cons, h, ih]

theorem compareLex_cons_of_lt {a b : α} (h : cmp a b = .lt) (as bs : List α) :
    List.compareLex cmp (a :: as) (b :: bs) = .lt := by
  rw [List.compareLex_cons_cons, h, Ordering.lt_then]

theorem compareLex_cons_self [Std.ReflCmp cmp] (a : α) (as bs : List α) :
    List.compareLex cmp (a :: as) (a :: bs) = List.compareLex cmp as bs := by
  have hself : cmp a a = .eq := Std.ReflCmp.compare_self
  rw [List.compareLex_cons_cons, hself, Ordering.eq_then]

theorem compareLex_append_left [Std.ReflCmp cmp] (before as bs : List α) :
    List.compareLex cmp (before ++ as) (before ++ bs) = List.compareLex cmp as bs := by
  induction before with
  | nil => rfl
  | cons a before ih => rw [List.cons_append, List.cons_append, compareLex_cons_self, ih]

end Lexicographic

namespace Text

/-! ## The bytes of a code point -/

namespace Utf8

/-- How many bytes follow the first one. -/
def tailLength (code : Nat) : Nat :=
  if code ≤ 0x7f then 0 else if code ≤ 0x7ff then 1 else if code ≤ 0xffff then 2 else 3

/-- The bits of a first byte that tell how many bytes follow. -/
def mark : Nat → Nat
  | 0 => 0
  | 1 => 0xc0
  | 2 => 0xe0
  | _ => 0xf0

/-- The first byte: a mark and what is left of the code point before its last digits to base 64. -/
def lead (code : Nat) : Nat :=
  mark (tailLength code) + code / 64 ^ tailLength code

/-- The bytes of the last digits to base 64. -/
def tail : Nat → Nat → List Nat
  | 0, _ => []
  | count + 1, code => (0x80 + code / 64 ^ count % 64) :: tail count code

def encode (code : Nat) : List Nat :=
  lead code :: tail (tailLength code) code

theorem tailLength_cases (code : Nat) :
    (tailLength code = 0 ∧ code ≤ 0x7f) ∨
    (tailLength code = 1 ∧ 0x7f < code ∧ code ≤ 0x7ff) ∨
    (tailLength code = 2 ∧ 0x7ff < code ∧ code ≤ 0xffff) ∨
    (tailLength code = 3 ∧ 0xffff < code) := by
  unfold tailLength
  split
  · omega
  · split
    · omega
    · split <;> omega

/-- The bytes of a character are those of its code point. -/
theorem toNat_utf8EncodeChar (c : Char) :
    (String.utf8EncodeChar c).map UInt8.toNat = encode c.toNat := by
  have hvalid : c.toNat < 0xd800 ∨ 0xdfff < c.toNat ∧ c.toNat < 0x110000 := c.valid
  have hbyte : ∀ n < 256, (UInt8.ofNat n).toNat = n := fun n hn => UInt8.toNat_ofNat_of_lt' hn
  unfold String.utf8EncodeChar encode lead
  rcases tailLength_cases c.toNat with ⟨hlength, h⟩ | ⟨hlength, h⟩ | ⟨hlength, h⟩ | ⟨hlength, h⟩
  all_goals
    rw [hlength]
    simp (disch := omega) only [Char.toNat_val, if_pos, if_neg, List.map_cons, List.map_nil, hbyte,
      tail, mark, List.cons.injEq, and_true]
    omega

/-! ## The order of bytes -/

/-- Of two numbers, what stands before a place decides, or it is the same and the rest decides. -/
theorem div_lt_or_mod_lt {a b : Nat} (h : a < b) (place : Nat) :
    a / place < b / place ∨ a / place = b / place ∧ a % place < b % place := by
  rcases Nat.lt_or_eq_of_le (Nat.div_le_div_right (Nat.le_of_lt h)) with hlt | heq
  · exact .inl hlt
  · refine .inr ⟨heq, ?_⟩
    rw [← Nat.div_add_mod a place, ← Nat.div_add_mod b place, heq] at h
    exact Nat.lt_of_add_lt_add_left h

/-- As many digits of two numbers have the order of the numbers, whatever follows them. -/
theorem compareLex_tail {count a b : Nat} (h : a % 64 ^ count < b % 64 ^ count)
    (as bs : List Nat) :
    List.compareLex compare (tail count a ++ as) (tail count b ++ bs) = .lt := by
  induction count with
  | zero => simp [Nat.mod_one] at h
  | succ count ih =>
    have hdigits := div_lt_or_mod_lt h (64 ^ count)
    rw [Nat.pow_succ, Nat.mod_mul_right_div_self, Nat.mod_mul_right_div_self,
      Nat.mod_mul_right_mod, Nat.mod_mul_right_mod] at hdigits
    rcases hdigits with hlt | ⟨heq, hrest⟩
    · exact compareLex_cons_of_lt (Nat.compare_eq_lt.2 (Nat.add_lt_add_left hlt 0x80)) _ _
    · rw [tail, tail, heq, List.cons_append, List.cons_append, compareLex_cons_self]
      exact ih hrest

theorem tailLength_mono {a b : Nat} (h : a ≤ b) : tailLength a ≤ tailLength b := by
  have ha := tailLength_cases a
  have hb := tailLength_cases b
  omega

theorem mark_mono {m n : Nat} (hmn : m ≤ n) (hn : n ≤ 3) : mark m ≤ mark n := by
  have hall : ∀ n ≤ 3, ∀ m ≤ n, mark m ≤ mark n := by decide
  exact hall n hn m hmn

theorem lead_lt_mark {code : Nat} (h : tailLength code < 3) :
    lead code < mark (tailLength code + 1) := by
  unfold lead
  rcases tailLength_cases code with ⟨hlength, hcode⟩ | ⟨hlength, hcode⟩ | ⟨hlength, hcode⟩ |
    ⟨hlength, hcode⟩
  all_goals
    rw [hlength] at h ⊢
    simp only [mark]
    omega

/-- The first byte of a longer form is greater. -/
theorem lead_lt_lead {a b : Nat} (h : tailLength a < tailLength b) : lead a < lead b := by
  have hthree : tailLength b ≤ 3 := by
    have hb := tailLength_cases b
    omega
  calc
    lead a < mark (tailLength a + 1) := lead_lt_mark (by omega)
    _ ≤ mark (tailLength b) := mark_mono h hthree
    _ ≤ lead b := Nat.le_add_right _ _

/-- The bytes of two code points differ before either of them ends, and have the order of the code
points there, whatever follows them. -/
theorem compareLex_encode {a b : Nat} (h : a < b) (as bs : List Nat) :
    List.compareLex compare (encode a ++ as) (encode b ++ bs) = .lt := by
  unfold encode
  rcases Nat.lt_or_eq_of_le (tailLength_mono (Nat.le_of_lt h)) with hlonger | hlength
  · exact compareLex_cons_of_lt (Nat.compare_eq_lt.2 (lead_lt_lead hlonger)) _ _
  · rcases div_lt_or_mod_lt h (64 ^ tailLength a) with hlt | ⟨heq, hrest⟩
    · have hlead : lead a < lead b := by
        unfold lead
        rw [← hlength]
        exact Nat.add_lt_add_left hlt _
      exact compareLex_cons_of_lt (Nat.compare_eq_lt.2 hlead) _ _
    · have hlead : lead a = lead b := by
        unfold lead
        rw [← hlength, heq]
      rw [hlead, ← hlength, List.cons_append, List.cons_append, compareLex_cons_self]
      exact compareLex_tail hrest as bs

/-- By the code points: equal ones in front are equal bytes in front, and the first two that differ
decide for both orders. -/
theorem compareLex_flatMap_encode (as bs : List Nat) :
    List.compareLex compare (as.flatMap encode) (bs.flatMap encode) =
      List.compareLex compare as bs := by
  induction as generalizing bs with
  | nil => cases bs <;> rfl
  | cons a as ih =>
    cases bs with
    | nil => rfl
    | cons b bs =>
      rw [List.flatMap_cons, List.flatMap_cons]
      rcases Nat.lt_trichotomy a b with hlt | rfl | hgt
      · rw [compareLex_encode hlt, compareLex_cons_of_lt (Nat.compare_eq_lt.2 hlt)]
      · rw [compareLex_append_left, compareLex_cons_self, ih]
      · have hbytes := compareLex_encode hgt (bs.flatMap encode) (as.flatMap encode)
        have hcodes := compareLex_cons_of_lt (Nat.compare_eq_lt.2 hgt) bs as
        rw [Std.OrientedCmp.gt_of_lt hbytes, Std.OrientedCmp.gt_of_lt hcodes]

end Utf8

/-! ## Texts -/

def codePoints (text : String) : List Nat :=
  text.toList.map Char.toNat

/-- Compares two texts by their code points, from the front. -/
def compareCodePoints (s t : String) : Ordering :=
  List.compareLex compare (codePoints s) (codePoints t)

/-- Compares two texts by their bytes in UTF-8, from the front. -/
def compareBytes (s t : String) : Ordering :=
  List.compareLex compare (Line.bytes s) (Line.bytes t)

theorem codePoints_injective {s t : String} (h : codePoints s = codePoints t) : s = t := by
  have hchar : Function.Injective Char.toNat := fun a b hab => Char.toNat_inj.1 hab
  exact String.toList_injective (hchar.list_map h)

theorem map_toNat_bytes (text : String) :
    (Line.bytes text).map UInt8.toNat = (codePoints text).flatMap Utf8.encode := by
  rw [Line.bytes_eq_flatMap, List.map_flatMap, codePoints, List.flatMap_map]
  simp only [Utf8.toNat_utf8EncodeChar]

theorem compareBytes_eq (s t : String) : compareBytes s t = compareCodePoints s t := by
  have hbyte : ∀ a b : UInt8, compare a.toNat b.toNat = compare a b := by
    intro a b
    simp only [compare, compareOfLessAndEq, UInt8.lt_iff_toNat_lt, ← UInt8.toNat_inj]
  unfold compareBytes compareCodePoints
  rw [← compareLex_map hbyte, map_toNat_bytes, map_toNat_bytes, Utf8.compareLex_flatMap_encode]

-- The second text begins with a lower number if it is written in units of 16 bits.
example : compareBytes "\uffff" "𐀀" = .lt := by decide

theorem compareLex_toNat_eq_lt_iff (as bs : List Char) :
    List.compareLex compare (as.map Char.toNat) (bs.map Char.toNat) = .lt ↔ as < bs := by
  induction as generalizing bs with
  | nil => cases bs <;> simp [List.compareLex]
  | cons a as ih =>
    cases bs with
    | nil => simp [List.compareLex]
    | cons b bs =>
      rw [List.cons_lt_cons_iff, List.map_cons, List.map_cons, List.compareLex_cons_cons,
        Ordering.then_eq_lt, Nat.compare_eq_lt, Nat.compare_eq_eq, ih, Char.toNat_inj]
      rfl

theorem compareCodePoints_eq_lt_iff {s t : String} : compareCodePoints s t = .lt ↔ s < t :=
  compareLex_toNat_eq_lt_iff s.toList t.toList

/-- The order of strings is that of their code points. -/
theorem compare_eq (s t : String) : compare s t = compareCodePoints s t := by
  have hlt : ∀ {s t : String}, compareCodePoints s t = .lt → compare s t = .lt := by
    intro s t h
    exact compareOfLessAndEq_eq_lt.2 (compareCodePoints_eq_lt_iff.1 h)
  cases hcodes : compareCodePoints s t with
  | lt => exact hlt hcodes
  | eq =>
    rw [codePoints_injective (Std.LawfulEqCmp.eq_of_compare hcodes)]
    exact Std.ReflCmp.compare_self
  | gt =>
    have hswapped : List.compareLex compare (codePoints t) (codePoints s) = .lt :=
      Std.OrientedCmp.lt_of_gt hcodes
    exact Std.OrientedCmp.gt_of_lt (hlt hswapped)

/-- The bytes of two strings compare like their code points.  `LT`, `GT` and the order of values
follow this comparison, and so do the names of a frame, which a dump shows in the order of its
slots. -/
theorem strings_ordered_alike (s t : String) :
    compareBytes s t = compareCodePoints s t ∧
    Value.compare? (.string s) (.string t) = some (compareBytes s t) ∧
    Opcode.less.Computes [.string s, .string t] (.bool (compareBytes s t).isLT) ∧
    Opcode.greater.Computes [.string s, .string t] (.bool (compareBytes s t).isGT) ∧
    ∀ frame : Frame, frame.slots.Pairwise fun a b => compareBytes a.1 b.1 = .lt := by
  have hvalue : Value.compare? (.string s) (.string t) = some (compareBytes s t) := by
    rw [compareBytes_eq, ← compare_eq]
    rfl
  refine ⟨compareBytes_eq s t, hvalue, ?_, ?_, ?_⟩
  · exact Opcode.less_computes_iff.2 ⟨_, hvalue, rfl⟩
  · exact Opcode.greater_computes_iff.2 ⟨_, hvalue, rfl⟩
  · intro frame
    refine frame.ascending.imp ?_
    intro a b hab
    rw [compareBytes_eq, compareCodePoints_eq_lt_iff]
    exact hab

end Text

end FrameCode
