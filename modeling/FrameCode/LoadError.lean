import FrameCode.ErrorClass
import FrameCode.LexError
import FrameCode.Opcode
import FrameCode.Order

/-!
# Errors of loading

An error about an instruction names its site: the text of its order as the document gives it, or its
number among the instructions if there is none.

- `LoadError`: why a document is not a program
- `LoadError.errorClass`: the class of an error
- `LoadError.message`: its wording
-/

namespace FrameCode

/-- Why a document is not a program. -/
inductive LoadError where
  | unreadable (path reason : String)
  /-- The document is no text, or not well-formed. -/
  | notWellFormed
  | invalidRoot (tag : String)
  | missingLanguage
  | unknownLanguage (language : String)
  /-- A child of the root is not an instruction. -/
  | unexpectedElement (position : Nat) (tag : String)
  | attributeCount (site : String) (count : Nat)
  | missingAttribute (site name : String)
  | invalidOrder (site : String)
  | duplicateOrder (order : Order)
  | unknownOpcode (site opcode : String)
  | argumentCount (site : String) (op : Opcode) (found : Nat)
  | missingArgument (site : String) (index : Nat)
  | argumentAttributes (site : String) (index count : Nat)
  | missingArgumentType (site : String) (index : Nat)
  /-- The type of an argument is unknown, or not accepted at its position. -/
  | incompatibleArgument (site : String) (index : Nat) (op : Opcode) (found : String)
  /-- The text of an argument is not a literal of its type. -/
  | invalidArgument (site : String) (index : Nat) (reason : LexError)
  | duplicateLabel (site label : String)
  deriving DecidableEq

namespace LoadError

def errorClass : LoadError → ErrorClass
  | unreadable .. => .inputFile
  | notWellFormed | invalidRoot .. | missingLanguage | unexpectedElement .. | attributeCount ..
  | missingAttribute .. => .documentFormat
  | unknownLanguage .. | invalidOrder .. | unknownOpcode .. | argumentCount .. | missingArgument ..
  | argumentAttributes .. | missingArgumentType .. | incompatibleArgument ..
  | invalidArgument .. => .source
  | duplicateOrder .. | duplicateLabel .. => .semantic

def message : LoadError → String
  | unreadable path reason => s!"unable to open input file '{path}': {reason}"
  | notWellFormed => "XML format error - the document is not well-formed"
  | invalidRoot tag => s!"XML format error - invalid root element '{tag}'"
  | missingLanguage => "XML format error - language attribute missing"
  | unknownLanguage language => s!"source code error - unknown language '{language}'"
  | unexpectedElement position tag =>
    s!"XML format error - unexpected element '{tag}' at position {position}"
  | attributeCount site count =>
    s!"XML format error - instruction {site} has {count} attribute(s), " ++
      "expected 'order' and 'opcode'"
  | missingAttribute site name =>
    s!"XML format error - required attribute '{name}' missing on instruction {site}"
  | invalidOrder site => s!"source code error - invalid instruction order value '{site}'"
  | duplicateOrder order =>
    s!"semantic error - instruction with order value '{order.render}' already exists"
  | unknownOpcode site opcode =>
    s!"source code error - invalid opcode '{opcode}' on instruction {site}"
  | argumentCount site op found =>
    s!"source code error - {op.mnemonic} expects {op.arity} argument(s), found {found} " ++
      s!"on instruction {site}"
  | missingArgument site index =>
    s!"source code error - argument 'arg{index}' not found on instruction {site}"
  | argumentAttributes site index count =>
    s!"source code error - argument 'arg{index}' has {count} attribute(s), expected 'type' " ++
      s!"on instruction {site}"
  | missingArgumentType site index =>
    s!"source code error - argument 'arg{index}' has no 'type' attribute on instruction {site}"
  | incompatibleArgument site index op found =>
    s!"source code error - argument type '{found}' is incompatible with {op.mnemonic} " ++
      s!"at 'arg{index}' on instruction {site}"
  | invalidArgument site index reason =>
    s!"source code error - {reason.message} at 'arg{index}' on instruction {site}"
  | duplicateLabel site label =>
    s!"semantic error - redefinition of label '{label}' on instruction {site}"

end LoadError

end FrameCode
