import FrameCode.LexError
import FrameCode.Text.Blank
import FrameCode.Text.Escape
import FrameCode.TypeTag
import FrameCode.Word

/-!
# Values

- `Value`: an integer, a truth value, a string or a type name
- `Value.parse`: literals of a given type
- `Value.ofLine`: what a line of input becomes
- `Value.compare?`: comparison within one type
- `Value.text`: what is written to the output
-/

namespace FrameCode

/-- A value of the language. -/
inductive Value where
  | int (n : Word)
  | bool (b : Bool)
  | string (s : String)
  | type (tag : TypeTag)
  deriving DecidableEq

namespace Value

def tag : Value → TypeTag
  | int _ => .int
  | bool _ => .bool
  | string _ => .string
  | type _ => .type

/-! ## Text -/

/-- The spelling of a truth value. -/
def boolText (b : Bool) : String :=
  if b then "true" else "false"

/-- The text of a value on the output. -/
def text : Value → String
  | int n => n.render
  | bool b => boolText b
  | string s => s
  | type tag => tag.name

/-! ## Reading -/

def parseBool (text : String) : Except LexError Bool :=
  if text = "true" then .ok true
  else if text = "false" then .ok false
  else .error (.malformed .bool text)

def parseString (text : String) : Except LexError String :=
  if Text.Escape.isLiteral text then .ok (Text.Escape.decode text)
  else .error (.malformed .string text)

def parseType (text : String) : Except LexError TypeTag :=
  match TypeTag.ofLiteral? text with
  | none => .error (.malformed .type text)
  | some tag => .ok tag

/-- Reads a literal of a given type. -/
def parse (tag : TypeTag) (text : String) : Except LexError Value :=
  match tag with
  | .int => int <$> Word.parse text
  | .bool => bool <$> parseBool text
  | .string => string <$> parseString text
  | .type => type <$> parseType text

/-! ## Input -/

/-- The word that a line of input gives, zero if it is no integer. -/
def wordOfLine (line : String) : Word :=
  match Word.parse (Text.trim line) with
  | .ok n => n
  | .error _ => 0

/-- Whether a line of input is `true`, whatever the case of its letters.  No character outside
ASCII has one of these letters as its lower-case form. -/
def boolOfLine (line : String) : Bool :=
  line.toList.map Char.toLower == "true".toList

/-- The string that a line of input gives, empty if the line is not a string literal.  Escapes are
not replaced. -/
def stringOfLine (line : String) : String :=
  if Text.Escape.isLiteral line then line else ""

/-- The value that a line of input gives for a type; the end of the input and a line that does not
fit give the default of the type. -/
def ofLine (tag : TypeTag) (line : Option String) : Value :=
  match tag with
  | .int => int (line.elim 0 wordOfLine)
  | .bool => bool (line.elim false boolOfLine)
  | .string => string (line.elim "" stringOfLine)
  | .type => string (line.elim "" stringOfLine)

/-! ## Comparison -/

/-- Compares two values of one type: words as integers, false before true, strings by code points,
type names in the order of the types.  Values of different types do not compare. -/
def compare? : Value → Value → Option Ordering
  | int a, int b => some (compare a b)
  | bool a, bool b => some (compare a b)
  | string a, string b => some (compare a b)
  | type a, type b => some (compare a.rank b.rank)
  | _, _ => none

end Value

end FrameCode
