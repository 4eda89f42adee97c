import FrameCode.Text.Alphanumeric
import FrameCode.Text.Blank

/-!
# Escapes of string literals

A string literal writes a character by its code point as a backslash and three decimal digits.

- `Escape.decode`: the text that a literal stands for
- `Escape.encode`: the literal of a text
- `Escape.isLiteral`: whether a text is a string literal
-/

namespace FrameCode
namespace Text
namespace Escape

/-! ## Reading -/

/-- The number written by three decimal digits. -/
def code (a b c : Char) : Nat :=
  100 * (a.toNat - 48) + 10 * (b.toNat - 48) + (c.toNat - 48)

/-- Replaces every backslash with three digits behind it by the character of that code point; any
other backslash stands for itself. -/
def decodeChars : List Char → List Char
  | [] => []
  | '\\' :: a :: b :: c :: rest =>
    if a.isDigit && b.isDigit && c.isDigit then
      Char.ofNat (code a b c) :: decodeChars rest
    else
      '\\' :: decodeChars (a :: b :: c :: rest)
  | c :: rest => c :: decodeChars rest

/-- The text that a string literal stands for. -/
def decode (text : String) : String :=
  .ofList (decodeChars text.toList)

/-! ## Writing -/

/-- The three decimal digits of a number below one thousand. -/
def threeDigits (n : Nat) : List Char :=
  [Nat.digitChar (n / 100 % 10), Nat.digitChar (n / 10 % 10), Nat.digitChar (n % 10)]

/-- Whether a character is written by its code point: a backslash, a number sign, white space or a
control character that three digits can name. -/
def isEscaped (c : Char) : Bool :=
  c.toNat ≤ 999 && (c == '\\' || c == '#' || isBlank c || isControl c)

/-- One character of a string literal. -/
def encodeChar (c : Char) : List Char :=
  if isEscaped c then '\\' :: threeDigits c.toNat else [c]

/-- The string literal of a text. -/
def encode (text : String) : String :=
  .ofList (text.toList.flatMap encodeChar)

/-! ## The grammar of literals -/

/-- Whether a character may stand for itself in a string literal. -/
def isPlain (c : Char) : Bool :=
  isAlphanumeric c || c == '_' || (' ' ≤ c && c ≤ '~')

/-- Whether a text is a sequence of plain characters and complete escapes. -/
def isSequence : List Char → Bool
  | [] => true
  | '\\' :: a :: b :: c :: rest => a.isDigit && b.isDigit && c.isDigit && isSequence rest
  | c :: rest => c != '\\' && isPlain c && isSequence rest

/-- Whether a text ends in white space. -/
def endsBlank (text : List Char) : Bool :=
  text.getLast?.any isBlank

/-- Whether a text is a string literal: plain characters and complete escapes, with no white space
at the end. -/
def isLiteral (text : String) : Bool :=
  !endsBlank text.toList && isSequence text.toList

end Escape
end Text
end FrameCode
