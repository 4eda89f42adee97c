import FrameCode.Instruction
import FrameCode.LabelTable

/-!
# Programs

A program is its instructions in the sequence of their orders, with the positions of its labels.

- `Program.ofInstructions`: sorts instructions and collects the labels
- `Program.listing`: one line for each instruction
-/

namespace FrameCode

/-- Instructions in execution sequence, and where the labels are. -/
structure Program where
  instructions : Array Instruction
  labels : LabelTable
  deriving DecidableEq

namespace Program

/-- Enters the labels that a sequence of instructions defines, the first of them at a given
position. -/
def collectLabels (table : LabelTable) (position : Nat) : List Instruction → LabelTable
  | [] => table
  | i :: later =>
    match i.definition? with
    | none => collectLabels table (position + 1) later
    | some name => collectLabels (table.insert name position) (position + 1) later

/-- Sorts instructions by their orders, where instructions of equal order keep their sequence. -/
def sort (instructions : List Instruction) : List Instruction :=
  instructions.mergeSort (fun a b => a.order.le b.order)

/-- The program of some instructions given in any sequence.  Where a label is defined more than
once, its first position counts. -/
def ofInstructions (instructions : List Instruction) : Program :=
  let sorted := sort instructions
  { instructions := sorted.toArray
    labels := collectLabels .empty 0 sorted }

/-- The number of instructions. -/
def size (p : Program) : Nat :=
  p.instructions.size

/-! ## Listing -/

/-- Puts spaces before a text up to a given length. -/
def padLeft (width : Nat) (text : String) : String :=
  .ofList (List.replicate (width - text.length) ' ') ++ text

/-- The line of an instruction: its position, its order and its source form. -/
def listingLine (position : Nat) (i : Instruction) : String :=
  padLeft 4 (toString position) ++ "  [" ++ i.order.render ++ "]  " ++ i.render ++ "\n"

/-- One line for each instruction. -/
def listing (p : Program) : String :=
  .join (p.instructions.toList.zipIdx.map fun (i, position) => listingLine position i)

end Program

end FrameCode
