/-!
# Types of values

- `TypeTag`: the types, in their order
- `TypeTag.ofLiteral?`: the type names that a program may write
-/

namespace FrameCode

/-- The type of a value. -/
inductive TypeTag where
  | int
  | bool
  | string
  | type
  deriving DecidableEq, Repr

namespace TypeTag

/-- Every type, in ascending order. -/
def all : List TypeTag :=
  [int, bool, string, type]

def name : TypeTag → String
  | int => "int"
  | bool => "bool"
  | string => "string"
  | type => "type"

/-- The place of a type among all types. -/
def rank : TypeTag → Nat
  | int => 0
  | bool => 1
  | string => 2
  | type => 3

/-- The type of a given name. -/
def ofName? (name : String) : Option TypeTag :=
  all.find? (·.name == name)

/-- The type that a type literal names; `type` itself is not a type literal. -/
def ofLiteral? (text : String) : Option TypeTag :=
  [int, bool, string].find? (·.name == text)

end TypeTag

end FrameCode
