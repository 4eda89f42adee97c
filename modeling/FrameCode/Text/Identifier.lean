import FrameCode.Text.Alphanumeric

/-!
# Identifiers

Names of variables and labels: one or more letters, numbers and the signs `_ - $ & % *`.

- `isIdentifierChar`, `isIdentifier`
-/

namespace FrameCode
namespace Text

/-- Whether a character may stand in a name. -/
def isIdentifierChar (c : Char) : Bool :=
  isAlphanumeric c || ['_', '-', '$', '&', '%', '*'].contains c

/-- Whether a text is a name of a variable or label. -/
def isIdentifier (text : String) : Bool :=
  !text.toList.isEmpty && text.toList.all isIdentifierChar

end Text
end FrameCode
