/-!
# Errors of literals

- `LiteralKind`: what a text was expected to be
- `LexError`: why a text is not the expected literal
- `LexError.message`: the wording
-/

namespace FrameCode

/-- What a text was expected to be. -/
inductive LiteralKind where
  | int
  | bool
  | string
  | type
  | order
  | var
  | label
  deriving DecidableEq, Repr

namespace LiteralKind

/-- The name of the expected literal in messages. -/
def name : LiteralKind → String
  | int => "int"
  | bool => "bool"
  | string => "string"
  | type => "type"
  | order => "order"
  | var => "var"
  | label => "label"

end LiteralKind

/-- Why a text is not the expected literal. -/
inductive LexError where
  /-- The text is outside the grammar of the expected literal. -/
  | malformed (expected : LiteralKind) (text : String)
  /-- The text is an integer that does not fit a machine word. -/
  | overflow (text : String)
  deriving DecidableEq, Repr

namespace LexError

def message : LexError → String
  | malformed expected text => s!"'{text}' is not a valid {expected.name} literal"
  | overflow text => s!"integer literal '{text}' does not fit in 64 bits"

end LexError

end FrameCode
