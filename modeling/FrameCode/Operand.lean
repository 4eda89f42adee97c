import FrameCode.LexError
import FrameCode.Text.Identifier
import FrameCode.Value

/-!
# Operands

An operand is a variable in one of the three frames, a literal or a label.  A document gives each
argument with its type; an operand position of an opcode accepts some of these types.

- `Scope`, `Variable`: variables, written `GF@x`, `LF@x`, `TF@x`
- `ArgumentType`: the types that a document may give to an argument
- `OperandKind`: what an operand position accepts
- `Operand`, `Operand.parse`, `Operand.render`
-/

namespace FrameCode

/-! ## Variables -/

/-- The frame that a variable is looked up in. -/
inductive Scope where
  /-- The global frame, which always exists. -/
  | global
  /-- The local frame on top of the frame stack. -/
  | current
  /-- The temporary frame, which is being prepared. -/
  | temporary
  deriving DecidableEq, Repr

namespace Scope

def all : List Scope :=
  [global, current, temporary]

def name : Scope → String
  | global => "GF"
  | current => "LF"
  | temporary => "TF"

def ofName? (name : String) : Option Scope :=
  all.find? (·.name == name)

end Scope

/-- A variable: the frame and the name in it. -/
structure Variable where
  scope : Scope
  name : String
  deriving DecidableEq, Repr

namespace Variable

def render (v : Variable) : String :=
  v.scope.name ++ "@" ++ v.name

/-- Reads a variable: the frame before the first `@`, an identifier behind it. -/
def parse? (text : String) : Option Variable :=
  match text.toList.span (· ≠ '@') with
  | (frame, '@' :: name) =>
    match Scope.ofName? (.ofList frame) with
    | some scope =>
      if Text.isIdentifier (.ofList name) then some ⟨scope, .ofList name⟩ else none
    | none => none
  | _ => none

end Variable

/-! ## Argument types and operand positions -/

/-- The type that a document gives to an argument. -/
inductive ArgumentType where
  | var
  | label
  | int
  | bool
  | string
  | type
  deriving DecidableEq, Repr

namespace ArgumentType

def all : List ArgumentType :=
  [var, label, int, bool, string, type]

def name : ArgumentType → String
  | var => "var"
  | label => "label"
  | int => "int"
  | bool => "bool"
  | string => "string"
  | type => "type"

def ofName? (name : String) : Option ArgumentType :=
  all.find? (·.name == name)

/-- The type of the literals that an argument type stands for. -/
def literalTag? : ArgumentType → Option TypeTag
  | var => none
  | label => none
  | int => some .int
  | bool => some .bool
  | string => some .string
  | type => some .type

end ArgumentType

/-- What an operand position of an opcode accepts. -/
inductive OperandKind where
  | var
  /-- Any value: a variable or an integer, truth value or string. -/
  | symbol
  | label
  | int
  | bool
  | string
  | type
  deriving DecidableEq, Repr

namespace OperandKind

def all : List OperandKind :=
  [var, symbol, label, int, bool, string, type]

/-- The argument types that fit a position. -/
def accepted : OperandKind → List ArgumentType
  | var => [.var]
  | symbol => [.var, .int, .bool, .string]
  | label => [.label]
  | int => [.var, .int]
  | bool => [.var, .bool]
  | string => [.var, .string]
  | type => [.type]

def accepts (kind : OperandKind) (given : ArgumentType) : Bool :=
  kind.accepted.contains given

end OperandKind

/-! ## Operands -/

/-- An operand of an instruction. -/
inductive Operand where
  | var (v : Variable)
  | literal (value : Value)
  | label (name : String)
  deriving DecidableEq

namespace Operand

/-- The source form of a literal; a type name stands for itself. -/
def renderLiteral : Value → String
  | .string s => "string@" ++ Text.Escape.encode s
  | .type tag => tag.name
  | .int n => "int@" ++ n.render
  | .bool b => "bool@" ++ Value.boolText b

/-- The source form of an operand. -/
def render : Operand → String
  | var v => v.render
  | literal value => renderLiteral value
  | label name => name

def parseVariable (text : String) : Except LexError Variable :=
  match Variable.parse? text with
  | none => .error (.malformed .var text)
  | some v => .ok v

def parseLabel (text : String) : Except LexError String :=
  if Text.isIdentifier text then .ok text else .error (.malformed .label text)

/-- Reads the text of an argument of a given type. -/
def parse (given : ArgumentType) (text : String) : Except LexError Operand :=
  match given with
  | .var => var <$> parseVariable text
  | .label => label <$> parseLabel text
  | .int => literal <$> Value.parse .int text
  | .bool => literal <$> Value.parse .bool text
  | .string => literal <$> Value.parse .string text
  | .type => literal <$> Value.parse .type text

end Operand

end FrameCode
