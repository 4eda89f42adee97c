import FrameCode.LoadError
import FrameCode.Markup.Document
import FrameCode.Program

/-!
# Programs as documents

A document holds a program as a `program` element with one `instruction` element for each
instruction, in any sequence.  The arguments of an instruction are the elements `arg1`, `arg2` and
so on.  The first thing that is wrong with a document is its error.

- `Instruction.ofElement`: an instruction, given those before it
- `Program.ofElement`: the program of a root element
- `Program.ofTextBy`: the program of a document, given how the text is read
- `Program.ofText`, `Program.ofBytes`: the program of a document
-/

namespace FrameCode

open Markup (Element)

namespace Instruction

/-! ## Arguments -/

/-- The name of the element of an argument, which are counted from one. -/
def argumentName (index : Nat) : String :=
  s!"arg{index}"

/-- The element of an argument. -/
def argumentOf (site : String) (e : Element) (index : Nat) : Except LoadError Element :=
  match e.elements.find? (·.name = argumentName index) with
  | none => .error (.missingArgument site index)
  | some argument => .ok argument

/-- The type of an argument, which is its only attribute. -/
def argumentTypeOf (site : String) (op : Opcode) (index : Nat) (kind : OperandKind)
    (argument : Element) : Except LoadError ArgumentType :=
  if argument.attributes.length ≠ 1 then
    .error (.argumentAttributes site index argument.attributes.length)
  else
    match argument.attribute? "type" with
    | none => .error (.missingArgumentType site index)
    | some name =>
      match (ArgumentType.ofName? name).filter kind.accepts with
      | none => .error (.incompatibleArgument site index op name)
      | some given => .ok given

/-- The operand that an argument gives for an operand position. -/
def operandOf (site : String) (op : Opcode) (e : Element) (kind : OperandKind) (index : Nat) :
    Except LoadError Operand := do
  let argument ← argumentOf site e index
  let given ← argumentTypeOf site op index kind argument
  match Operand.parse given argument.text with
  | .error reason => .error (.invalidArgument site index reason)
  | .ok operand => .ok operand

/-- The operands of an instruction, one for each position of its opcode. -/
def operandsOf (site : String) (op : Opcode) (e : Element) : Except LoadError (List Operand) :=
  if e.elements.length ≠ op.arity then
    .error (.argumentCount site op e.elements.length)
  else
    (op.signature.zipIdx 1).mapM fun (kind, index) => operandOf site op e kind index

/-! ## Instructions -/

/-- How errors name an instruction element at a given position. -/
def siteOf (position : Nat) (e : Element) : String :=
  (e.attribute? "order").getD s!"#{position}"

/-- The order of an instruction, which no instruction before it has. -/
def orderOf (earlier : List Instruction) (site : String) (e : Element) : Except LoadError Order :=
  match e.attribute? "order" with
  | none => .error (.missingAttribute site "order")
  | some text =>
    match Order.parse (Text.trim text) with
    | .error _ => .error (.invalidOrder site)
    | .ok order =>
      if earlier.any (·.order = order) then .error (.duplicateOrder order) else .ok order

def opcodeOf (site : String) (e : Element) : Except LoadError Opcode :=
  match e.attribute? "opcode" with
  | none => .error (.missingAttribute site "opcode")
  | some name =>
    match Opcode.ofMnemonic? name with
    | none => .error (.unknownOpcode site name)
    | some op => .ok op

/-- Fails if an instruction defines a label that one before it defines. -/
def checkLabel (earlier : List Instruction) (site : String) (i : Instruction) :
    Except LoadError Unit :=
  match i.definition? with
  | none => .ok ()
  | some name =>
    if earlier.any (·.definition? = some name) then .error (.duplicateLabel site name) else .ok ()

/-- The instruction of an element, given the instructions of the elements before it. -/
def ofElement (earlier : List Instruction) (e : Element) : Except LoadError Instruction :=
  let position := earlier.length + 1
  let site := siteOf position e
  if e.name ≠ "instruction" then
    .error (.unexpectedElement position e.name)
  else if e.attributes.length ≠ 2 then
    .error (.attributeCount site e.attributes.length)
  else do
    let order ← orderOf earlier site e
    let op ← opcodeOf site e
    let operands ← operandsOf site op e
    let i : Instruction := ⟨op, order, operands⟩
    checkLabel earlier site i
    return i

/-- The instructions of some elements, after those of the elements before them, which are given with
the latest first. -/
def ofElements (earlier : List Instruction) : List Element → Except LoadError (List Instruction)
  | [] => .ok earlier.reverse
  | e :: later => do
    let i ← ofElement earlier e
    ofElements (i :: earlier) later

end Instruction

namespace Program

/-- The language that a program must be written in. -/
def language : String := "IPPcode18"

/-- Fails unless an element is the root of a program. -/
def checkRoot (root : Element) : Except LoadError Unit :=
  if root.name ≠ "program" then
    .error (.invalidRoot root.name)
  else
    match root.attribute? "language" with
    | none => .error .missingLanguage
    | some name => if name = language then .ok () else .error (.unknownLanguage name)

/-- The program of a root element. -/
def ofElement (root : Element) : Except LoadError Program := do
  checkRoot root
  return ofInstructions (← Instruction.ofElements [] root.elements)

/-- The program of a document whose root element is read from the text in a given way. -/
def ofTextBy (parse? : String → Option Element) (text : String) : Except LoadError Program :=
  match parse? text with
  | none => .error .notWellFormed
  | some root => ofElement root

/-- The program of a document. -/
def ofText (text : String) : Except LoadError Program :=
  ofTextBy Element.parse? text

/-- The program of a document in UTF-8. -/
def ofBytes (bytes : ByteArray) : Except LoadError Program :=
  match String.fromUTF8? bytes with
  | none => .error .notWellFormed
  | some text => ofText text

end Program

end FrameCode
