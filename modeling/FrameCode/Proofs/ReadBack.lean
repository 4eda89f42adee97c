import FrameCode.Proofs.Footprint
import FrameCode.Proofs.InputLines
import FrameCode.Proofs.MessageLines
import FrameCode.Proofs.Unspaced

/-!
# What is written is read back

A value that is written and followed by a line ending makes up one line, because no text of a value
breaks a line.  Another program that is given the output as its input takes it line by line, and
each line gives the value that was written, if it is read as a value of the same type.

- `Value.Readable`, `Value.ofLine_text`: values whose text gives them again
- `Line.Ending`, `Line.next_bytes`, `Line.decode_bytes`: a text with an ending is the next line
- `Machine.Completes`: some instructions that follow each other all succeed
- `Machine.completes_writes`, `Machine.completes_reads`: writing values, and reading lines
- `Machine.writes_read_back`: the values that were written are those that are read
-/

namespace FrameCode

open Text (OneLine)

/-! ## Texts of values -/

namespace Text.Escape

/-- No character of a literal is other than plain: backslashes and digits are plain too. -/
theorem isPlain_of_isSequence {text : List Char} (h : isSequence text = true) :
    ∀ c ∈ text, isPlain c = true := by
  have hdigit : ∀ d : Char, d.isDigit = true → isPlain d = true := by
    intro d hd
    have hbounds := Numeral.toNat_of_isDigit hd
    have hprintable : ' ' ≤ d ∧ d ≤ '~' :=
      ⟨Nat.le_trans (by decide) hbounds.1, Nat.le_trans hbounds.2 (by decide)⟩
    simp [isPlain, hprintable]
  rcases isSequence_iff.1 h with ⟨tokens, rfl⟩
  intro c hc
  rcases List.mem_flatMap.1 hc with ⟨token, -, hmem⟩
  cases token with
  | plain d _ hplain => exact List.mem_singleton.1 hmem ▸ hplain
  | escape x y z hx hy hz =>
    simp only [Token.spelling, List.mem_cons, List.not_mem_nil, or_false] at hmem
    rcases hmem with rfl | rfl | rfl | rfl
    · decide
    · exact hdigit _ hx
    · exact hdigit _ hy
    · exact hdigit _ hz

end Text.Escape

namespace Value

/-- The values that a line of input can give: a string has to be a literal, and there are no type
names among them. -/
def Readable : Value → Prop
  | int _ | bool _ => True
  | string s => Text.Escape.isLiteral s = true
  | type _ => False

instance : DecidablePred Readable
  | int _ | bool _ => inferInstanceAs (Decidable True)
  | string s => inferInstanceAs (Decidable (Text.Escape.isLiteral s = true))
  | type _ => inferInstanceAs (Decidable False)

variable {value : Value}

theorem Readable.oneLine (h : value.Readable) : OneLine value.text := by
  cases value with
  | int n => exact n.oneLine_render
  | bool b => cases b <;> decide
  | string s =>
    have hsequence : Text.Escape.isSequence s.toList = true := (Bool.and_eq_true_iff.1 h).2
    exact Text.oneLine_of_forall (by decide) (by decide)
      (Text.Escape.isPlain_of_isSequence hsequence)
  | type _ => cases h

/-- The text of a value, as a line of input, gives this value. -/
theorem ofLine_text (h : value.Readable) : ofLine value.tag (some value.text) = value := by
  cases value with
  | int n =>
    have hparse : Word.parse (Text.trim n.render) = .ok n := by
      rw [Text.trim_of_unspaced n.unspaced_render]
      exact Word.parse_eq_ok_iff.2 n.denotes_render
    have hword : wordOfLine n.render = n := by simp only [wordOfLine, hparse]
    simp only [tag, text, ofLine, Option.elim_some, hword]
  | bool b => cases b <;> decide
  | string s =>
    have hstring : stringOfLine s = s := if_pos h
    simp only [tag, text, ofLine, Option.elim_some, hstring]
  | type _ => cases h

end Value

/-! ## Lines -/

namespace Line

/-- What ends a line. -/
inductive Ending where
  | feed
  | returnFeed
  deriving DecidableEq, Repr

def Ending.text : Ending → String
  | feed => "\n"
  | returnFeed => "\r\n"

/-- An ASCII byte is there only if its character is. -/
theorem not_mem_bytes {b : UInt8} {c : Char} (hb : b.toNat < 128) (hc : c.toNat = b.toNat)
    {text : String} (h : c ∉ text.toList) : b ∉ bytes text := by
  intro hmem
  rw [bytes_eq_flatMap] at hmem
  rcases List.mem_flatMap.1 hmem with ⟨d, hd, hmem⟩
  have hsmall : d.toNat ≤ 127 := by
    by_contra hlarge
    have hbyte := le_toNat_of_mem_utf8EncodeChar (c := d) (Nat.lt_of_not_le hlarge) hmem
    omega
  -- A character below 128 is its own byte.
  have hsingle : String.utf8EncodeChar d = [UInt8.ofNat d.toNat] := if_pos hsmall
  rw [hsingle, List.mem_singleton] at hmem
  have hsame : d = c := by
    refine Char.toNat_inj.1 ?_
    rw [hc, hmem, UInt8.toNat_ofNat', Nat.mod_eq_of_lt (by omega)]
  exact h (hsame ▸ hd)

variable {text : String}

theorem lineFeed_not_mem (h : OneLine text) : lineFeed ∉ bytes text :=
  not_mem_bytes (by decide) (by decide) h.1

theorem carriageReturn_not_mem (h : OneLine text) : carriageReturn ∉ bytes text :=
  not_mem_bytes (by decide) (by decide) h.2

theorem next_append_feed {before : List UInt8} (h : lineFeed ∉ before) (rest : List UInt8) :
    next (before ++ lineFeed :: rest) = (before ++ [lineFeed], rest) := by
  -- The line is known from all lines of the input, and then so is what it leaves of the input.
  have hline : (next (before ++ lineFeed :: rest)).1 = before ++ [lineFeed] := by
    simp [next_eq_all, all_append_feed h]
  have hboth := next_append (before ++ lineFeed :: rest)
  have hrest : (next (before ++ lineFeed :: rest)).2 = rest := by simpa [hline] using hboth
  exact Prod.ext hline hrest

/-- A text of one line with an ending is the next line of an input that begins with both. -/
theorem next_bytes (h : OneLine text) (ending : Ending) (rest : List UInt8) :
    next (bytes text ++ bytes ending.text ++ rest) = (bytes text ++ bytes ending.text, rest) := by
  have hfree := lineFeed_not_mem h
  cases ending with
  | feed =>
    have hending : bytes Ending.feed.text = [lineFeed] := by decide
    simpa [hending] using next_append_feed hfree rest
  | returnFeed =>
    have hending : bytes Ending.returnFeed.text = [carriageReturn, lineFeed] := by decide
    have hlonger : lineFeed ∉ bytes text ++ [carriageReturn] := by
      simpa [hfree] using (by decide : lineFeed ≠ carriageReturn)
    simpa [hending] using next_append_feed hlonger rest

/-- The ending goes, and nothing else does: the text does not end in a carriage return itself. -/
theorem content_bytes (h : OneLine text) (ending : Ending) :
    content (bytes text ++ bytes ending.text) = bytes text := by
  have hfree := carriageReturn_not_mem h
  cases ending with
  | feed =>
    -- A carriage return at the end of the text would be taken for a part of the ending.
    have hending : bytes Ending.feed.text = [lineFeed] := by decide
    rcases List.eq_nil_or_concat (bytes text) with hnil | ⟨before, last, hlast⟩
    · simp [hending, hnil, content]
    · have hreturn : last ≠ carriageReturn := by
        intro heq
        exact hfree (by simp [hlast, heq])
      simp [hending, hlast, content, hreturn]
  | returnFeed =>
    have hending : bytes Ending.returnFeed.text = [carriageReturn, lineFeed] := by decide
    simp [hending, content]

theorem decode_bytes (h : OneLine text) (ending : Ending) :
    decode (bytes text ++ bytes ending.text) = .ok (some text) := by
  have hnonempty : (bytes text ++ bytes ending.text).isEmpty = false := by
    have hending : bytes ending.text ≠ [] := by cases ending <;> decide
    simp [hending]
  have hbytes : (⟨(bytes text).toArray⟩ : ByteArray) = text.toUTF8 := by simp [bytes]
  have htext : String.fromUTF8? text.toUTF8 = some text := dif_pos text.isValidUTF8
  simp only [decode, hnonempty, content_bytes h, hbytes, htext, Bool.false_eq_true, if_false]

end Line

/-! ## Instructions that write and read -/

namespace Frames

variable {frames after : Frames} {v w : Variable}

theorem holds_iff_slotAt? {content : Option Value} :
    frames.Holds v content ↔ frames.slotAt? v.scope.place v.name = some content := by
  refine ⟨Holds.slotAt?, fun h => ?_⟩
  simp only [slotAt?, frameAt?_place, Option.bind_eq_some_iff] at h
  exact h

/-- Other variables hold what they held. -/
theorem KeepsBut.holds (h : frames.KeepsBut after v) (hne : w ≠ v) {content : Option Value}
    (hw : frames.Holds w content) : after.Holds w content := by
  rw [holds_iff_slotAt?, h.slots _ _ (Variable.slot_ne hne)]
  exact hw.slotAt?

end Frames

namespace Instruction

/-- An instruction writes a value. -/
def Writes (i : Instruction) (frames : Frames) (value : Value) : Prop :=
  i.opcode = .write ∧ i.HasValue frames 0 value

/-- An instruction reads a line as a value of a type into a variable. -/
def ReadsInto (i : Instruction) (v : Variable) (tag : TypeTag) : Prop :=
  i.opcode = .read ∧ i.operands[0]? = some (.var v) ∧ i.operands[1]? = some (.literal (.type tag))

variable {i : Instruction} {labels : LabelTable} {m : Machine}

theorem Writes.execute {value : Value} (h : i.Writes m.frames value) :
    i.execute labels m = m.write value.text := by
  have hvalue : i.valueAt m.frames 0 = .ok value := valueAt_eq_ok_iff.2 h.2
  have heffect : i.effect labels m = .ok (.write value.text) := by
    simp only [effect, h.1, hvalue]
    rfl
  exact execute_of_effect heffect

theorem ReadsInto.execute {v : Variable} {tag : TypeTag} (h : i.ReadsInto v tag)
    (hdeclared : m.frames.Declares v) : i.execute labels m = m.readLine v tag :=
  execute_of_request (request?_eq_some_iff.2 ⟨h.1, h.2.1, h.2.2, hdeclared⟩)

end Instruction

namespace Channel

/-- A text that fits is taken whole. -/
theorem written_of_fits {channel : Channel} {text : String} (h : channel.fits text = true) :
    (channel.write text).written = channel.written ++ text.toUTF8 := by
  rcases channel with ⟨written, room⟩
  cases room with
  | none => rfl
  | some n =>
    have hsize : text.toUTF8.size ≤ n := by simpa [fits] using h
    have hwhole : text.toUTF8.extract 0 n = text.toUTF8 := by
      refine ByteArray.ext ?_
      rw [ByteArray.data_extract]
      exact Array.extract_eq_self_of_le hsize
    simp only [write, accepted, hwhole]

end Channel

namespace Machine

variable {p : Program} {m : Machine}

/-- The next instructions of a program are some given ones, and each of them succeeds. -/
inductive Completes (p : Program) : Machine → List Instruction → Machine → Prop
  | nil (m : Machine) : Completes p m [] m
  | cons {m next after : Machine} {i : Instruction} {instructions : List Instruction}
      (hdispatch : m.dispatch p = some (i, .done next))
      (hlater : Completes p next instructions after) : Completes p m (i :: instructions) after

/-- The first one of some instructions that stand at the program counter is the next one, and the
others stand behind it. -/
theorem next_of_prefix {i : Instruction} {later : List Instruction}
    (h : i :: later <+: p.instructions.toList.drop m.pc) :
    m.dispatch p = some (i, i.execute p.labels m.fetch) ∧
      later <+: p.instructions.toList.drop (m.pc + 1) := by
  rcases h with ⟨rest, hrest⟩
  have hhead : p.instructions[m.pc]? = some i := by
    have hfirst : (p.instructions.toList.drop m.pc)[0]? = some i := by simp [← hrest]
    simpa using hfirst
  refine ⟨dispatch_eq_some_iff.2 ⟨hhead, rfl⟩, rest, ?_⟩
  rw [← List.drop_drop, ← hrest]
  rfl

/-! ## Writing -/

/-- An instruction whose value fits the output succeeds and changes nothing but the output. -/
theorem dispatch_writes {i : Instruction} {value : Value}
    (hnext : m.dispatch p = some (i, i.execute p.labels m.fetch))
    (hi : i.Writes m.frames value) (hfits : m.output.fits value.text = true) :
    ∃ next, m.dispatch p = some (i, .done next) ∧ next.pc = m.pc + 1 ∧ next.frames = m.frames ∧
      next.output = m.output.write value.text := by
  have hfetched : i.Writes m.fetch.frames value := hi
  have hwrite : m.fetch.write value.text =
      .done { m.fetch with output := m.output.write value.text } := if_pos hfits
  rw [hfetched.execute, hwrite] at hnext
  exact ⟨_, hnext, rfl, rfl, rfl⟩

/-- Instructions that write values which fit the output all succeed, and the output grows by the
texts of the values. -/
theorem completes_writes {writes : List Instruction} {values : List Value}
    (hplace : writes <+: p.instructions.toList.drop m.pc)
    (hwrites : List.Forall₂ (fun i value => i.Writes m.frames value) writes values)
    (hfits : m.output.fits (.join (values.map Value.text)) = true) :
    ∃ after, Completes p m writes after ∧
      after.output.written = m.output.written ++ (String.join (values.map Value.text)).toUTF8 := by
  induction writes generalizing m values with
  | nil =>
    cases hwrites
    exact ⟨m, .nil m, by simp⟩
  | cons i later ih =>
    rcases List.forall₂_cons_left_iff.1 hwrites with ⟨value, values, hi, hlater, rfl⟩
    rcases next_of_prefix hplace with ⟨hnext, hplace⟩
    simp only [List.map_cons, String.join_cons, Channel.fits_append, Bool.and_eq_true] at hfits
    rcases dispatch_writes hnext hi hfits.1 with ⟨next, hdispatch, hpc, hframes, houtput⟩
    -- The frames are the same, so the other values are still there to be written.
    rw [← hframes] at hlater
    rw [← hpc] at hplace
    rw [← houtput] at hfits
    rcases ih hplace hlater hfits.2 with ⟨after, hafter, hwritten⟩
    refine ⟨after, .cons hdispatch hafter, ?_⟩
    calc
      after.output.written
          = next.output.written ++ (String.join (values.map Value.text)).toUTF8 := hwritten
      _ = m.output.written ++ value.text.toUTF8 ++
            (String.join (values.map Value.text)).toUTF8 := by
          rw [houtput, Channel.written_of_fits hfits.1]
      _ = m.output.written ++ (String.join ((value :: values).map Value.text)).toUTF8 := by
          simp [ByteArray.append_assoc, String.join_cons]

/-! ## Reading -/

/-- A read takes a line that begins the input, and its variable receives what the line gives. -/
theorem readLine_of_line {text : String} (h : OneLine text) (ending : Line.Ending)
    {rest : List UInt8} (hinput : m.input = Line.bytes text ++ Line.bytes ending.text ++ rest)
    {v : Variable} (hdeclared : m.frames.Declares v) (tag : TypeTag) :
    ∃ frames, m.frames.assign v (Value.ofLine tag (some text)) = .ok frames ∧
      m.readLine v tag = .done { m with input := rest, frames := frames } := by
  have hcheck : m.frames.checkAssignable v = .ok () := Frames.checkAssignable_eq_ok_iff.2 hdeclared
  rcases (Frames.exists_assign_iff (Value.ofLine tag (some text))).2 hdeclared with
    ⟨frames, hframes⟩
  have hnext : Line.next m.input = (Line.bytes text ++ Line.bytes ending.text, rest) := by
    rw [hinput, Line.next_bytes h]
  refine ⟨frames, hframes, ?_⟩
  simp only [readLine, hcheck, hnext, Line.decode_bytes h, hframes, withFrames]

/-- An instruction that reads a line of its type succeeds, takes this line, and changes no other
variable. -/
theorem dispatch_reads {i : Instruction} {v : Variable} {value : Value} {ending : Line.Ending}
    {rest : List UInt8} (hnext : m.dispatch p = some (i, i.execute p.labels m.fetch))
    (hi : i.ReadsInto v value.tag) (hvalue : value.Readable) (hdeclared : m.frames.Declares v)
    (hinput : m.input = Line.bytes value.text ++ Line.bytes ending.text ++ rest) :
    ∃ next, m.dispatch p = some (i, .done next) ∧ next.pc = m.pc + 1 ∧ next.input = rest ∧
      m.frames.Overwrites next.frames v value := by
  have hfetched : m.fetch.frames.Declares v := hdeclared
  rcases readLine_of_line (m := m.fetch) hvalue.oneLine ending hinput hdeclared value.tag with
    ⟨frames, hframes, hread⟩
  rw [Value.ofLine_text hvalue] at hframes
  rw [hi.execute hfetched, hread] at hnext
  exact ⟨_, hnext, rfl, rfl, Frames.overwrites_of_assign hframes⟩

/-- The text of some values, each with a line ending. -/
def transcript (lines : List (Value × Line.Ending)) : String :=
  .join (lines.map fun line => line.1.text ++ line.2.text)

theorem bytes_transcript_cons (value : Value) (ending : Line.Ending)
    (lines : List (Value × Line.Ending)) :
    Line.bytes (transcript ((value, ending) :: lines)) =
      Line.bytes value.text ++ Line.bytes ending.text ++ Line.bytes (transcript lines) := by
  simp [transcript, String.join_cons, Line.bytes_append]

/-- Instructions that read lines into different variables all succeed.  Each variable receives the
value that its line is made of, and all other variables keep what they hold. -/
theorem completes_reads {lines : List (Value × Line.Ending)}
    (hreadable : ∀ line ∈ lines, line.1.Readable) {reads : List Instruction}
    {targets : List (Variable × Value)} (hplace : reads <+: p.instructions.toList.drop m.pc)
    (hreads : List.Forall₂ (fun i target => i.ReadsInto target.1 target.2.tag) reads targets)
    (hvalues : targets.map Prod.snd = lines.map Prod.fst)
    (hdistinct : (targets.map Prod.fst).Nodup)
    (hdeclared : ∀ target ∈ targets, m.frames.Declares target.1)
    (hinput : m.input = Line.bytes (transcript lines)) :
    ∃ last, Completes p m reads last ∧ last.input = [] ∧
      (∀ target ∈ targets, last.frames.Holds target.1 (some target.2)) ∧
      ∀ v content, v ∉ targets.map Prod.fst → m.frames.Holds v content →
        last.frames.Holds v content := by
  -- By the lines: those that are left are the input of the instructions that are left.
  induction lines generalizing m reads targets with
  | nil =>
    obtain rfl : targets = [] := List.map_eq_nil_iff.1 hvalues
    cases hreads
    exact ⟨m, .nil m, hinput, by simp, fun _ _ _ hholds => hholds⟩
  | cons line lines ih =>
    rcases line with ⟨_, ending⟩
    rcases targets with _ | ⟨⟨v, value⟩, targets⟩
    · cases hvalues
    obtain ⟨rfl, hlaterValues⟩ := List.cons.inj hvalues
    rcases List.forall₂_cons_right_iff.1 hreads with ⟨i, later, hi, hlater, rfl⟩
    rcases next_of_prefix hplace with ⟨hnext, hplace⟩
    rcases List.forall_mem_cons.1 hreadable with ⟨hvalue, hreadable⟩
    rcases List.forall_mem_cons.1 hdeclared with ⟨hv, hdeclared⟩
    rcases List.nodup_cons.1 hdistinct with ⟨hfresh, hdistinct⟩
    rw [bytes_transcript_cons] at hinput
    rcases dispatch_reads hnext hi hvalue hv hinput with
      ⟨next, hdispatch, hpc, hrest, hoverwrites⟩
    -- The other variables are still declared, because this is none of them.
    have hstill : ∀ target ∈ targets, next.frames.Declares target.1 := by
      intro target htarget
      rcases hdeclared target htarget with ⟨content, hcontent⟩
      have hne : target.1 ≠ v := fun heq => hfresh (List.mem_map.2 ⟨target, htarget, heq⟩)
      exact ⟨content, hoverwrites.keeps.holds hne hcontent⟩
    rw [← hpc] at hplace
    rcases ih hreadable hplace hlater hlaterValues hdistinct hstill hrest with
      ⟨last, hlast, hempty, hholds, hothers⟩
    refine ⟨last, .cons hdispatch hlast, hempty, ?_, ?_⟩
    · -- No later read has the same variable, so the value stays in it.
      exact List.forall_mem_cons.2 ⟨hothers v _ hfresh hoverwrites.holds, hholds⟩
    · intro w content hw hholds
      rw [List.map_cons, List.mem_cons, not_or] at hw
      exact hothers w content hw.2 (hoverwrites.keeps.holds hw.1 hholds)

/-! ## Both together -/

/-- Writing a value and then its ending gives the line. -/
theorem join_flatMap_eq_transcript (lines : List (Value × Line.Ending)) :
    String.join ((lines.flatMap fun line => [line.1, .string line.2.text]).map Value.text) =
      transcript lines := by
  induction lines with
  | nil => rfl
  | cons line lines ih =>
    simp only [transcript, List.flatMap_cons, List.map_append, List.map_cons, List.map_nil,
      String.join_append, String.join_cons] at ih ⊢
    rw [ih]
    simp [Value.text]

/-- Values that are written, each with a line ending behind it, are read back: if what has been
written is the input of instructions that read values of the same types into different variables,
these instructions succeed, the variables hold the values, and nothing of the input is left. -/
theorem writes_read_back (lines : List (Value × Line.Ending))
    (hreadable : ∀ line ∈ lines, line.1.Readable) (p : Program) (m : Machine)
    (writes : List Instruction) (hplace : writes <+: p.instructions.toList.drop m.pc)
    (hwrites : List.Forall₂ (fun i value => i.Writes m.frames value) writes
      (lines.flatMap fun line => [line.1, .string line.2.text]))
    (hfits : m.output.fits (transcript lines) = true) :
    ∃ after written, Completes p m writes after ∧
      after.output.written = m.output.written ++ written ∧
      ∀ (q : Program) (start : Machine) (reads : List Instruction)
        (targets : List (Variable × Value)), start.input = written.data.toList →
        reads <+: q.instructions.toList.drop start.pc →
        List.Forall₂ (fun i target => i.ReadsInto target.1 target.2.tag) reads targets →
        targets.map Prod.snd = lines.map Prod.fst → (targets.map Prod.fst).Nodup →
        (∀ target ∈ targets, start.frames.Declares target.1) →
        ∃ last, Completes q start reads last ∧ last.input = [] ∧
          ∀ target ∈ targets, last.frames.Holds target.1 (some target.2) := by
  -- Both halves meet at the transcript: it is what is written, and what is read.
  rw [← join_flatMap_eq_transcript] at hfits
  rcases completes_writes hplace hwrites hfits with ⟨after, hafter, hwritten⟩
  rw [join_flatMap_eq_transcript] at hwritten
  refine ⟨after, (transcript lines).toUTF8, hafter, hwritten, ?_⟩
  intro q start reads targets hinput hplace hreads hvalues hdistinct hdeclared
  rcases completes_reads hreadable hplace hreads hvalues hdistinct hdeclared hinput with
    ⟨last, hlast, hempty, hholds, -⟩
  exact ⟨last, hlast, hempty, hholds⟩

/-- The least integer and a string with an escape, on lines with different endings. -/
theorem writes_read_back_two :
    ∃ (p q : Program) (after start last : Machine),
      Completes p (.initial [] (.ofRoom none) (.ofRoom none)) p.instructions.toList after ∧
      start.input = after.output.written.data.toList ∧
      Completes q start q.instructions.toList last ∧ last.input = [] ∧
      last.frames.Holds ⟨.global, "x"⟩ (some (.int (-9223372036854775808))) ∧
      last.frames.Holds ⟨.global, "y"⟩ (some (.string "a\\032")) := by
  let p : Program :=
    ⟨#[⟨.write, .ofInt 1, [.literal (.int (-9223372036854775808))]⟩,
      ⟨.write, .ofInt 2, [.literal (.string "\r\n")]⟩,
      ⟨.write, .ofInt 3, [.literal (.string "a\\032")]⟩,
      ⟨.write, .ofInt 4, [.literal (.string "\n")]⟩], .empty⟩
  let q : Program :=
    ⟨#[⟨.read, .ofInt 1, [.var ⟨.global, "x"⟩, .literal (.type .int)]⟩,
      ⟨.read, .ofInt 2, [.var ⟨.global, "y"⟩, .literal (.type .string)]⟩], .empty⟩
  let lines : List (Value × Line.Ending) :=
    [(.int (-9223372036854775808), .returnFeed), (.string "a\\032", .feed)]
  let targets : List (Variable × Value) :=
    [(⟨.global, "x"⟩, .int (-9223372036854775808)), (⟨.global, "y"⟩, .string "a\\032")]
  let frames : Frames := ⟨(Frame.empty.put "x" none).put "y" none, [], none⟩
  have hliteral : ∀ order value,
      (⟨.write, order, [.literal value]⟩ : Instruction).Writes .initial value :=
    fun _ value => ⟨rfl, .literal value, rfl, rfl⟩
  have hwrites : List.Forall₂ (fun i value => i.Writes Frames.initial value) p.instructions.toList
      (lines.flatMap fun line => [line.1, .string line.2.text]) :=
    .cons (hliteral _ _) (.cons (hliteral _ _) (.cons (hliteral _ _) (.cons (hliteral _ _) .nil)))
  rcases writes_read_back lines (by decide) p (.initial [] (.ofRoom none) (.ofRoom none))
    p.instructions.toList (List.prefix_refl _) hwrites rfl with
    ⟨after, written, hafter, hwritten, hback⟩
  obtain rfl : after.output.written = written := hwritten.trans ByteArray.empty_append
  have hreads : List.Forall₂ (fun i target => i.ReadsInto target.1 target.2.tag)
      q.instructions.toList targets :=
    .cons ⟨rfl, rfl, rfl⟩ (.cons ⟨rfl, rfl, rfl⟩ .nil)
  have hdeclared : ∀ target ∈ targets, frames.Declares target.1 :=
    List.forall_mem_cons.2 ⟨⟨none, _, rfl, rfl⟩,
      List.forall_mem_cons.2 ⟨⟨none, _, rfl, rfl⟩, by simp⟩⟩
  let start : Machine :=
    { Machine.initial after.output.written.data.toList (.ofRoom none) (.ofRoom none) with
      frames := frames }
  rcases hback q start _ targets rfl (List.prefix_refl _) hreads rfl (by decide) hdeclared with
    ⟨last, hlast, hempty, hholds⟩
  have hx := hholds (⟨.global, "x"⟩, .int (-9223372036854775808)) (by simp [targets])
  have hy := hholds (⟨.global, "y"⟩, .string "a\\032") (by simp [targets])
  exact ⟨p, q, after, start, last, hafter, rfl, hlast, hempty, hx, hy⟩

end Machine
end FrameCode
