import FrameCode.Line
import Mathlib.Data.List.TakeDrop
import Mathlib.Data.List.TakeWhile

/-!
# Lines of text

An ASCII byte is never a part of the UTF-8 form of another character.  So text can be cut at any
ASCII byte, and in particular the lines of a text are texts.

- `Line.bytes`: a text in UTF-8
- `Line.IsText`: bytes that are text in UTF-8
- `Line.isText_append_cons_iff`: cutting at an ASCII byte
- `Line.IsFirst`: a line and what follows it
- `Line.exists_decode_iff`: a line can be decoded exactly if it is text
-/

namespace FrameCode
namespace Line

/-! ## Text in UTF-8 -/

/-- The UTF-8 form of a text. -/
def bytes (text : String) : List UInt8 :=
  text.toUTF8.data.toList

theorem bytes_append (a b : String) : bytes (a ++ b) = bytes a ++ bytes b := by
  simp [bytes]

theorem bytes_eq_flatMap (text : String) :
    bytes text = text.toList.flatMap String.utf8EncodeChar := by
  have hencode : text.toUTF8 = text.toList.utf8Encode := text.utf8Encode_toList.symm
  rw [bytes, hencode, List.utf8Encode, List.data_toByteArray]

/-- Bytes that are the UTF-8 form of some characters. -/
def IsText (bytes : List UInt8) : Prop :=
  ∃ chars : List Char, bytes = chars.flatMap String.utf8EncodeChar

theorem isText_iff_isValidUTF8 {bytes : List UInt8} :
    IsText bytes ↔ ByteArray.IsValidUTF8 ⟨bytes.toArray⟩ := by
  have hbytes : ∀ chars : List Char,
      (⟨bytes.toArray⟩ : ByteArray) = chars.utf8Encode ↔
        bytes = chars.flatMap String.utf8EncodeChar := by
    intro chars
    rw [List.utf8Encode, ByteArray.ext_iff, List.data_toByteArray]
    simp
  constructor
  · intro h
    rcases h with ⟨chars, hchars⟩
    exact .intro chars ((hbytes chars).2 hchars)
  · intro h
    rcases h with ⟨chars, hchars⟩
    exact ⟨chars, (hbytes chars).1 hchars⟩

theorem isText_nil : IsText [] :=
  ⟨[], rfl⟩

theorem IsText.append {a b : List UInt8} (ha : IsText a) (hb : IsText b) : IsText (a ++ b) := by
  rcases ha with ⟨as, rfl⟩
  rcases hb with ⟨bs, rfl⟩
  exact ⟨as ++ bs, by simp⟩

/-- A byte below 128 is the UTF-8 form of a character. -/
theorem isText_ascii {b : UInt8} (hb : b.toNat < 128) : IsText [b] := by
  have hvalid : b.toNat.isValidChar := .inl (by omega)
  have hval : (Char.ofNat b.toNat).val.toNat = b.toNat := by
    rw [Char.ofNat, dif_pos hvalid]
    rfl
  refine ⟨[Char.ofNat b.toNat], ?_⟩
  have hle : b.toNat ≤ 127 := by omega
  simp [String.utf8EncodeChar, hval, hle]

/-- The UTF-8 form of a character above 127 has no byte below 128. -/
theorem le_toNat_of_mem_utf8EncodeChar {c : Char} {b : UInt8} (hc : 127 < c.val.toNat)
    (h : b ∈ String.utf8EncodeChar c) : 128 ≤ b.toNat := by
  have hnot : ¬ c.val.toNat ≤ 127 := by omega
  unfold String.utf8EncodeChar at h
  simp only [hnot, if_false] at h
  -- Leading and following bytes alike are a remainder plus at least 128.
  split at h
  · simp only [List.mem_cons, List.not_mem_nil, or_false] at h
    rcases h with rfl | rfl <;> simp <;> omega
  · split at h
    · simp only [List.mem_cons, List.not_mem_nil, or_false] at h
      rcases h with rfl | rfl | rfl <;> simp <;> omega
    · simp only [List.mem_cons, List.not_mem_nil, or_false] at h
      rcases h with rfl | rfl | rfl | rfl <;> simp <;> omega

/-- A character whose UTF-8 form contains a byte below 128 consists of that byte. -/
theorem utf8EncodeChar_eq_of_mem {c : Char} {b : UInt8} (hb : b.toNat < 128)
    (h : b ∈ String.utf8EncodeChar c) : String.utf8EncodeChar c = [b] := by
  by_cases hc : c.val.toNat ≤ 127
  · have hsingle : String.utf8EncodeChar c = [UInt8.ofNat c.val.toNat] := if_pos hc
    rw [hsingle] at h ⊢
    rw [List.mem_singleton.1 h]
  · have := le_toNat_of_mem_utf8EncodeChar (by omega) h
    omega

/-! ## Cutting at an ASCII byte -/

theorem isText_of_append_cons {b : UInt8} (hb : b.toNat < 128) {before after : List UInt8}
    (h : IsText (before ++ b :: after)) : IsText before ∧ IsText after := by
  rcases h with ⟨chars, hchars⟩
  -- By the characters of the whole: the byte is in the first of them or behind it.
  induction chars generalizing before with
  | nil => simp at hchars
  | cons c chars ih =>
    rw [List.flatMap_cons] at hchars
    rcases List.append_eq_append_iff.1 hchars with ⟨part, hpart, htail⟩ | ⟨part, rfl, htail⟩
    · -- The byte falls into the first character, which it then makes up alone.
      cases part with
      | nil =>
        have hrest : [] ++ b :: after = chars.flatMap String.utf8EncodeChar := htail
        rcases ih hrest with ⟨-, hafter⟩
        refine ⟨⟨[c], ?_⟩, hafter⟩
        simpa using hpart.symm
      | cons b' part =>
        have hb' : b = b' ∧ after = part ++ chars.flatMap String.utf8EncodeChar := by
          simpa using htail
        rcases hb' with ⟨rfl, rfl⟩
        have hwhole := utf8EncodeChar_eq_of_mem hb (c := c) (by simp [hpart])
        have hnil : before = [] ∧ part = [] := by
          rw [hwhole] at hpart
          cases before with
          | nil => simpa using hpart
          | cons first before => simp at hpart
        rcases hnil with ⟨rfl, rfl⟩
        exact ⟨isText_nil, chars, rfl⟩
    · -- The first character lies before the byte altogether.
      rcases ih htail.symm with ⟨hbefore, hafter⟩
      exact ⟨.append ⟨[c], by simp⟩ hbefore, hafter⟩

/-- Bytes with an ASCII byte among them are text exactly if the bytes before it and after it are. -/
theorem isText_append_cons_iff {b : UInt8} (hb : b.toNat < 128) {before after : List UInt8} :
    IsText (before ++ b :: after) ↔ IsText before ∧ IsText after := by
  constructor
  · exact isText_of_append_cons hb
  · intro h
    rcases h with ⟨hbefore, hafter⟩
    exact hbefore.append ((isText_ascii hb).append hafter)

theorem isText_concat_iff {b : UInt8} (hb : b.toNat < 128) {before : List UInt8} :
    IsText (before ++ [b]) ↔ IsText before := by
  rw [isText_append_cons_iff hb]
  exact and_iff_left isText_nil

/-! ## Lines -/

/-- A line and what follows it: a line feed can only stand at the end of the line, and it stands
there unless nothing follows. -/
structure IsFirst (line rest : List UInt8) : Prop where
  single : lineFeed ∉ line.dropLast
  complete : rest ≠ [] → line.getLast? = some lineFeed

/-- The first line takes all of the input, or ends with the first line feed. -/
theorem next_cases (input : List UInt8) :
    (lineFeed ∉ input ∧ next input = (input, [])) ∨
      ∃ before rest, lineFeed ∉ before ∧ input = before ++ lineFeed :: rest ∧
        next input = (before ++ [lineFeed], rest) := by
  have hbefore : lineFeed ∉ input.takeWhile (· != lineFeed) := by
    intro hmem
    simpa using List.mem_takeWhile_imp hmem
  have hsplit := List.takeWhile_append_dropWhile (p := (· != lineFeed)) (l := input)
  unfold next
  rw [List.span_eq_takeWhile_dropWhile]
  cases hrest : input.dropWhile (· != lineFeed) with
  | nil =>
    rw [hrest, List.append_nil] at hsplit
    rw [hsplit] at hbefore ⊢
    exact .inl ⟨hbefore, rfl⟩
  | cons feed rest =>
    have hfeed : feed = lineFeed := by
      have := List.head?_dropWhile_not (· != lineFeed) input
      simpa [hrest] using this
    subst hfeed
    rw [hrest] at hsplit
    exact .inr ⟨_, rest, hbefore, hsplit.symm, rfl⟩

theorem next_append (input : List UInt8) : (next input).1 ++ (next input).2 = input := by
  rcases next_cases input with ⟨-, hnext⟩ | ⟨before, rest, -, hinput, hnext⟩
  · simp [hnext]
  · rw [hnext, hinput]
    simp

theorem next_isFirst (input : List UInt8) : IsFirst (next input).1 (next input).2 := by
  rcases next_cases input with ⟨hfree, hnext⟩ | ⟨before, rest, hfree, -, hnext⟩
  · rw [hnext]
    exact ⟨fun hmem => hfree (List.dropLast_subset _ hmem), fun hrest => absurd rfl hrest⟩
  · rw [hnext]
    exact ⟨by simpa using hfree, by simp⟩

/-- The first line of a text and what follows it are texts. -/
theorem isText_next {input : List UInt8} (h : IsText input) :
    IsText (next input).1 ∧ IsText (next input).2 := by
  rcases next_cases input with ⟨-, hnext⟩ | ⟨before, rest, -, rfl, hnext⟩
  · rw [hnext]
    exact ⟨h, isText_nil⟩
  · rw [hnext]
    rcases (isText_append_cons_iff (by decide)).1 h with ⟨hbefore, hrest⟩
    exact ⟨(isText_concat_iff (by decide)).2 hbefore, hrest⟩

/-! ## Decoding -/

/-- The ending of a line does not matter for whether it is text. -/
theorem isText_content_iff (line : List UInt8) : IsText (content line) ↔ IsText line := by
  rcases List.eq_nil_or_concat line with rfl | ⟨before, last, rfl⟩
  · rfl
  · unfold content
    simp only [List.concat_eq_append, List.reverse_append, List.reverse_singleton,
      List.singleton_append]
    split
    next hfeed =>
      -- The line feed goes, and a carriage return before it; both are ASCII bytes.
      subst hfeed
      rw [isText_concat_iff (by decide)]
      rcases List.eq_nil_or_concat before with rfl | ⟨start, previous, rfl⟩
      · rfl
      · simp only [List.concat_eq_append, List.reverse_append, List.reverse_singleton,
          List.singleton_append]
        split
        next hreturn =>
          subst hreturn
          rw [isText_concat_iff (by decide), List.reverse_reverse]
        next => simp
    next => rfl

/-- A line can be decoded exactly if it is text. -/
theorem exists_decode_iff {line : List UInt8} :
    (∃ text, decode line = .ok text) ↔ IsText line := by
  unfold decode
  split
  next hempty =>
    have : line = [] := List.isEmpty_iff.1 hempty
    subst this
    exact ⟨fun _ => isText_nil, fun _ => ⟨none, rfl⟩⟩
  next =>
    rw [← isText_content_iff, isText_iff_isValidUTF8]
    unfold String.fromUTF8?
    constructor
    · intro h
      rcases h with ⟨text, htext⟩
      by_contra hvalid
      simp [hvalid] at htext
    · intro hvalid
      exact ⟨some (String.fromUTF8 _ hvalid), by simp [hvalid]⟩

theorem decode_eq_error {line : List UInt8} {failure : ChannelFailure}
    (h : decode line = .error failure) : failure = .notText := by
  unfold decode at h
  split at h
  next => cases h
  next =>
    split at h
    next =>
      cases h
      rfl
    next => cases h

end Line
end FrameCode
