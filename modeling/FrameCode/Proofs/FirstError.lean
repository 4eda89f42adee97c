import FrameCode.Proofs.Arrangement
import FrameCode.Proofs.LoadFailures

/-!
# The first error

A document is read element by element, and the first element that is not accepted ends the reading.
So its error depends on nothing behind this element: there is one place where a document can be cut
such that what stands before it is a program, and no document that goes on from there is one.  The
error says which element stands at this place.

- `Program.FirstRejected`: the number of the element at which every reading ends
- `LoadError.site?`, `LoadError.Names`: how an error names an element
- `Program.ofTextBy_first_error`: there is one such number, and the error names its element
-/

namespace FrameCode

open Markup (Element)

/-! ## The place of an error -/

namespace Program

/-- A root element that may hold a program. -/
def AcceptedRoot (root : Element) : Prop :=
  root.name = "program" ∧ root.attribute? "language" = some language

/-- Reading ends at the element of a given number, which is counted from one: the elements before it
are a program, and whatever stands behind it, the error is the same.  This is about trees, and the
text of a document is read as its tree. -/
structure FirstRejected (root : Element) (error : LoadError) (k : Nat) : Prop where
  loads : ∀ cut, AcceptedRoot cut → cut.elements = root.elements.take (k - 1) →
    ∃ p, ofElement cut = .ok p
  rejects : ∀ other, AcceptedRoot other → root.elements.take k <+: other.elements →
    ofElement other = .error error

end Program

/-- The text by which an error names an instruction. -/
def LoadError.site? : LoadError → Option String
  | attributeCount site .. | missingAttribute site .. | invalidOrder site | unknownOpcode site ..
  | argumentCount site .. | missingArgument site .. | argumentAttributes site ..
  | missingArgumentType site .. | incompatibleArgument site .. | invalidArgument site ..
  | duplicateLabel site .. => some site
  | unreadable .. | notWellFormed | invalidRoot .. | missingLanguage | unknownLanguage ..
  | unexpectedElement .. | duplicateOrder .. => none

/-- An error is about the element of a given number behind some others, and says so: by its number
if it is no instruction, else by its order as it is written, or by its number if it has none.  What
is there twice is there in this element and in one before it. -/
structure LoadError.Names (error : LoadError) (k : Nat) (before : List Element) (e : Element) :
    Prop where
  position : e.name ≠ "instruction" → error = .unexpectedElement k e.name
  site : e.name = "instruction" → (∀ order, error ≠ .duplicateOrder order) →
    error.site? = some ((e.attribute? "order").getD s!"#{k}")
  order : ∀ order, error = .duplicateOrder order → Instruction.HasOrder e order.toInt ∧
    ∃ other ∈ before, Instruction.HasOrder other order.toInt
  label : ∀ site label, error = .duplicateLabel site label → Instruction.DefinesLabel e label ∧
    ∃ other ∈ before, Instruction.DefinesLabel other label

/-! ## Cutting documents -/

namespace Markup.Element

/-- A root element with its first elements only, and nothing between them. -/
def cut (root : Element) (count : Nat) : Element :=
  { root with children := (root.elements.take count).map toNode }

theorem elements_cut (root : Element) (count : Nat) :
    (root.cut count).elements = root.elements.take count := by
  have hnodes : Node.element? ∘ toNode = some := rfl
  rw [elements, cut, List.filterMap_map, hnodes, List.filterMap_some]

end Markup.Element

namespace Program

variable {root : Element} {error : LoadError} {j k : Nat}

theorem AcceptedRoot.cut (h : AcceptedRoot root) (count : Nat) : AcceptedRoot (root.cut count) :=
  h

/-- A root element that may hold a program fails exactly if its elements do. -/
theorem AcceptedRoot.ofElement_eq_error_iff (h : AcceptedRoot root) :
    ofElement root = .error error ↔ Instruction.ofElements [] root.elements = .error error := by
  have hroot : checkRoot root = .ok () := checkRoot_eq_ok_iff.2 h
  simp [ofElement, bind_eq_error_iff, hroot, map_eq_error_iff]

theorem AcceptedRoot.loads (h : AcceptedRoot root) {read : List Instruction}
    (hread : Instruction.ofElements [] root.elements = .ok read) : ∃ p, ofElement root = .ok p := by
  have hroot : checkRoot root = .ok () := checkRoot_eq_ok_iff.2 h
  exact ⟨_, bind_eq_ok_iff.2 ⟨(), hroot, bind_eq_ok_iff.2 ⟨read, hread, rfl⟩⟩⟩

/-- Reading cannot end at two places: a document that is cut before the second one would be a
program, and would be rejected for the first one. -/
theorem FirstRejected.le (hj : FirstRejected root error j) (hk : FirstRejected root error k)
    (haccepted : AcceptedRoot root) : j ≤ k := by
  by_contra hlt
  -- Cut right before the place with the greater number, the document still has the other place.
  have hcut := haccepted.cut (j - 1)
  have helements := root.elements_cut (j - 1)
  have hshort : root.elements.take k <+: (root.cut (j - 1)).elements := by
    rw [helements]
    exact List.take_prefix_take_left (by omega)
  rcases hj.loads _ hcut helements with ⟨p, hloads⟩
  have hrejected := hk.rejects _ hcut hshort
  rw [hloads] at hrejected
  cases hrejected

theorem FirstRejected.unique (hj : FirstRejected root error j) (hk : FirstRejected root error k)
    (haccepted : AcceptedRoot root) : j = k :=
  Nat.le_antisymm (hj.le hk haccepted) (hk.le hj haccepted)

/-- Reading ends at an element that is not accepted after those before it. -/
theorem firstRejected_of_ofElement {before after : List Element} {e : Element}
    {read : List Instruction} (hsplit : root.elements = before ++ e :: after)
    (hread : Instruction.ofElements [] before = .ok read)
    (hrejected : Instruction.ofElement read.reverse e = .error error) :
    FirstRejected root error (before.length + 1) where
  loads := by
    intro cut haccepted hcut
    have hbefore : cut.elements = before := by simpa [hsplit] using hcut
    exact haccepted.loads (hbefore ▸ hread)
  rejects := by
    intro other haccepted hother
    have htaken : root.elements.take (before.length + 1) = before ++ [e] := by
      simp [hsplit, List.take_append]
    rw [htaken] at hother
    rcases hother with ⟨later, hlater⟩
    have helements : other.elements = before ++ e :: later := by simp [← hlater]
    exact haccepted.ofElement_eq_error_iff.2
      (Instruction.ofElements_eq_error_iff.2 ⟨before, e, later, read, helements, hread, hrejected⟩)

end Program

/-! ## What an error says -/

namespace Instruction

variable {e : Element} {error : LoadError}

theorem ofElement_of_name_ne {earlier : List Instruction} (h : e.name ≠ "instruction") :
    ofElement earlier e = .error (.unexpectedElement (earlier.length + 1) e.name) := by
  simp [ofElement, h]

/-- All errors of an instruction but one have its site. -/
theorem Rejects.site?_eq {earlier : List Instruction} {site : String}
    (h : Rejects earlier e site error) (hname : e.name = "instruction")
    (horder : ∀ order, error ≠ .duplicateOrder order) : error.site? = some site := by
  cases h with
  | unexpectedElement hother => exact absurd hname hother
  | duplicateOrder order => exact absurd rfl (horder order)
  | _ => rfl

/-- Every instruction that has been read belongs to one of the elements. -/
theorem exists_mem_reads {before : List Element} {read : List Instruction}
    (h : List.Forall₂ Reads before read) {i : Instruction} (hi : i ∈ read) :
    ∃ other ∈ before, Reads other i := by
  rcases List.mem_iff_getElem?.1 hi with ⟨n, hn⟩
  rcases exists_getElem?_of_forall₂ h.flip hn with ⟨other, hother, hreads⟩
  exact ⟨other, List.mem_of_getElem? hother, hreads⟩

theorem names_of_ofElement {before : List Element} {read : List Instruction}
    (hreads : List.Forall₂ Reads before read)
    (hrejected : ofElement read.reverse e = .error error) :
    error.Names (before.length + 1) before e := by
  have hlength : read.reverse.length = before.length := by
    rw [List.length_reverse, hreads.length_eq]
  have hrejects := ofElement_eq_error hrejected
  rw [hlength] at hrejects
  refine ⟨?_, fun hname horder => hrejects.site?_eq hname horder, ?_, ?_⟩
  · intro hname
    rw [ofElement_of_name_ne hname, hlength] at hrejected
    exact (Except.error.inj hrejected).symm
  -- What the element repeats stands in an instruction that has been read, and so in its element.
  · rintro order rfl
    cases hrejects with
    | duplicateOrder _ horder hearlier =>
      rcases hearlier with ⟨i, hi, rfl⟩
      rcases exists_mem_reads hreads (List.mem_reverse.1 hi) with ⟨other, hother, hread⟩
      exact ⟨horder, other, hother, hread.order⟩
  · rintro site label rfl
    cases hrejects with
    | duplicateLabel i hread _ hlabel hearlier =>
      rcases hearlier with ⟨j, hj, hdefinition⟩
      rcases exists_mem_reads hreads (List.mem_reverse.1 hj) with ⟨other, hother, hearlier⟩
      exact ⟨hread.definesLabel_iff.2 hlabel, other, hother,
        hearlier.definesLabel_iff.2 hdefinition⟩

end Instruction

namespace Program

/-- For a document that is rejected, there is exactly one number such that its elements before this
number are a program, and every document that begins with the elements up to this number has the
same error.  The error names the element of this number.  How the text is read does not matter. -/
theorem ofTextBy_first_error (parse? : String → Option Element) (text : String) (root : Element)
    (hroot : parse? text = some root) (haccepted : AcceptedRoot root) (error : LoadError)
    (hrejected : ofTextBy parse? text = .error error) :
    (∃! k, FirstRejected root error k) ∧
      ∀ k, FirstRejected root error k → ∃ e, root.elements[k - 1]? = some e ∧
        error.Names k (root.elements.take (k - 1)) e := by
  rw [ofTextBy_of_parse? hroot, haccepted.ofElement_eq_error_iff] at hrejected
  -- The element that is not accepted has as many elements before it as have been read.
  rcases Instruction.ofElements_eq_error_iff.1 hrejected with
    ⟨before, e, after, read, hsplit, hread, hfailed⟩
  rcases Instruction.ofElements_eq_ok_iff.1 hread with ⟨_, rfl, hreads, -⟩
  have hfirst : FirstRejected root error (before.length + 1) :=
    firstRejected_of_ofElement hsplit hread hfailed
  refine ⟨⟨_, hfirst, fun j hj => hj.unique hfirst haccepted⟩, ?_⟩
  intro k hk
  obtain rfl : k = before.length + 1 := hk.unique hfirst haccepted
  have hbefore : root.elements.take (before.length + 1 - 1) = before := by simp [hsplit]
  refine ⟨e, by simp [hsplit], ?_⟩
  rw [hbefore]
  exact Instruction.names_of_ofElement hreads hfailed

/-- An order that is there for a second time ends the reading, and the element behind it, which is
no instruction, is not looked at. -/
theorem ofText_first_error_order :
    ∃ root, Element.parse? ("<program language=\"IPPcode18\"><instruction order=\"1\" " ++
        "opcode=\"BREAK\"/><instruction order=\"01\" opcode=\"BREAK\"/><x/></program>") =
        some root ∧
      ∃! k, FirstRejected root (.duplicateOrder (.ofInt 1)) k := by
  have hread : ((Element.parse? ("<program language=\"IPPcode18\"><instruction order=\"1\" " ++
        "opcode=\"BREAK\"/><instruction order=\"01\" opcode=\"BREAK\"/><x/></program>")).map
      fun root => (checkRoot root, Instruction.ofElements [] root.elements)) =
        some (.ok (), .error (.duplicateOrder (.ofInt 1))) := by
    decide +kernel
  rcases Option.map_eq_some_iff.1 hread with ⟨root, hroot, hboth⟩
  rcases Prod.mk.inj hboth with ⟨hchecked, herror⟩
  have haccepted : AcceptedRoot root := checkRoot_eq_ok_iff.1 hchecked
  have hrejected := (ofTextBy_of_parse? hroot).trans (haccepted.ofElement_eq_error_iff.2 herror)
  exact ⟨root, hroot, (ofTextBy_first_error _ _ root hroot haccepted _ hrejected).1⟩

end Program

end FrameCode
