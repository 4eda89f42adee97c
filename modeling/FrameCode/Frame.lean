import FrameCode.Text.Quoted
import FrameCode.Value

/-!
# Frames

A frame holds the variables of one scope.  A declared variable has no value until it is assigned.

- `Frame`: slots by name, in ascending order of the names
- `Frame.slot?`: the slot of a name, absent if the name is not declared
- `Frame.put`: declares a name or replaces its slot
- `Frame.render`: the text of a frame in a dump
-/

namespace FrameCode

/-- A name with the value it holds, if any. -/
abbrev Slot := String × Option Value

namespace Slot

/-- Puts a slot in its place among slots in ascending order of names; a slot of the same name is
replaced. -/
def insert (slot : Slot) : List Slot → List Slot
  | [] => [slot]
  | other :: later =>
    if slot.1 < other.1 then slot :: other :: later
    else if other.1 < slot.1 then other :: insert slot later
    else slot :: later

theorem mem_insert {slot other : Slot} {slots : List Slot} (h : other ∈ insert slot slots) :
    other = slot ∨ other ∈ slots := by
  induction slots with
  | nil => simpa [insert] using h
  | cons first later ih =>
    simp only [insert] at h
    split at h
    · simpa using h
    · split at h
      · rcases List.mem_cons.1 h with rfl | hlater
        · simp
        · rcases ih hlater with heq | hmem
          · exact .inl heq
          · exact .inr (List.mem_cons_of_mem _ hmem)
      · rcases List.mem_cons.1 h with heq | hlater
        · exact .inl heq
        · exact .inr (List.mem_cons_of_mem _ hlater)

/-- Insertion keeps the names in strictly ascending order. -/
theorem pairwise_insert {slot : Slot} {slots : List Slot}
    (h : slots.Pairwise (fun a b => a.1 < b.1)) :
    (insert slot slots).Pairwise (fun a b => a.1 < b.1) := by
  induction slots with
  | nil => exact List.pairwise_singleton ..
  | cons first later ih =>
    obtain ⟨hfirst, hlater⟩ := List.pairwise_cons.1 h
    simp only [insert]
    split
    next hlt =>
      refine List.pairwise_cons.2 ⟨?_, h⟩
      intro b hb
      rcases List.mem_cons.1 hb with rfl | hmem
      · exact hlt
      · exact String.lt_trans hlt (hfirst b hmem)
    next hnlt =>
      split
      next hgt =>
        refine List.pairwise_cons.2 ⟨?_, ih hlater⟩
        intro b hb
        rcases mem_insert hb with rfl | hmem
        · exact hgt
        · exact hfirst b hmem
      next hngt =>
        have hname : slot.1 = first.1 :=
          String.le_antisymm (String.not_lt.1 hngt) (String.not_lt.1 hnlt)
        exact List.pairwise_cons.2 ⟨fun b hb => hname ▸ hfirst b hb, hlater⟩

/-- A name is looked up in the first slot, then in the later ones. -/
theorem lookup_cons (name : String) (slot : Slot) (later : List Slot) :
    (slot :: later).lookup name = if name = slot.1 then some slot.2 else later.lookup name := by
  obtain ⟨key, content⟩ := slot
  by_cases hname : name = key
  · simp [hname]
  · have hbeq : (name == key) = false := beq_eq_false_iff_ne.2 hname
    simp [List.lookup_cons, hname, hbeq]

/-- The inserted slot is found under its name. -/
theorem lookup_insert_self (slot : Slot) (slots : List Slot) :
    (insert slot slots).lookup slot.1 = some slot.2 := by
  induction slots with
  | nil => simp [insert, lookup_cons]
  | cons other later ih =>
    simp only [insert]
    split
    · simp [lookup_cons]
    · split
      next hgt =>
        have hne : slot.1 ≠ other.1 := fun heq => String.lt_irrefl _ (heq ▸ hgt)
        rw [lookup_cons, if_neg hne, ih]
      next => simp [lookup_cons]

/-- Other names keep their slots. -/
theorem lookup_insert_of_ne {slot : Slot} {slots : List Slot} {name : String}
    (h : name ≠ slot.1) : (insert slot slots).lookup name = slots.lookup name := by
  induction slots with
  | nil => simp [insert, lookup_cons, h]
  | cons other later ih =>
    simp only [insert]
    split
    · rw [lookup_cons, if_neg h]
    next hnlt =>
      split
      · rw [lookup_cons, lookup_cons, ih]
      next hngt =>
        have hname : slot.1 = other.1 :=
          String.le_antisymm (String.not_lt.1 hngt) (String.not_lt.1 hnlt)
        rw [lookup_cons, if_neg h, lookup_cons, if_neg (hname ▸ h)]

end Slot

/-- The variables of one scope, with their names in strictly ascending order. -/
structure Frame where
  slots : List Slot
  ascending : slots.Pairwise (fun a b => a.1 < b.1)
  deriving DecidableEq

namespace Frame

def empty : Frame where
  slots := []
  ascending := .nil

/-- The slot of a name: absent if the name is not declared, empty if it holds no value. -/
def slot? (frame : Frame) (name : String) : Option (Option Value) :=
  frame.slots.lookup name

def contains (frame : Frame) (name : String) : Bool :=
  (frame.slot? name).isSome

/-- Gives a name a slot with the given content. -/
def put (frame : Frame) (name : String) (content : Option Value) : Frame where
  slots := Slot.insert (name, content) frame.slots
  ascending := Slot.pairwise_insert frame.ascending

@[simp]
theorem slot?_put_self (frame : Frame) (name : String) (content : Option Value) :
    (frame.put name content).slot? name = some content :=
  Slot.lookup_insert_self (name, content) frame.slots

theorem slot?_put_of_ne (frame : Frame) {name other : String} (content : Option Value)
    (h : other ≠ name) : (frame.put name content).slot? other = frame.slot? other :=
  Slot.lookup_insert_of_ne h

/-! ## Dump -/

/-- The content of a slot in a dump; strings are quoted. -/
def renderContent : Option Value → String
  | none => "<unset>"
  | some (.string s) => Text.Quoted.render s
  | some value => value.text

/-- The text of a frame in a dump. -/
def render (frame : Frame) : String :=
  "\x7b" ++ ", ".intercalate (frame.slots.map fun (name, content) =>
    name ++ "=" ++ renderContent content) ++ "\x7d"

end Frame

end FrameCode
