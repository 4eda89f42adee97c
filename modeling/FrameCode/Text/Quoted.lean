import FrameCode.Text.Printable

/-!
# Quoted strings of a dump

A dump of the frames shows a string between double quotes.  Quotes, backslashes and the common
control characters have short escapes; any other character that is not printable is shown by its
code point in lower-case hexadecimal.

- `Quoted.char`: one character between the quotes
- `Quoted.render`: the whole string with its quotes
-/

namespace FrameCode
namespace Text
namespace Quoted

/-- How one character is shown between the quotes. -/
def char (c : Char) : List Char :=
  if c = '\x00' then ['\\', '0']
  else if c = '\t' then ['\\', 't']
  else if c = '\n' then ['\\', 'n']
  else if c = '\r' then ['\\', 'r']
  else if c = '"' then ['\\', '"']
  else if c = '\\' then ['\\', '\\']
  else if isPrintable c then [c]
  else ['\\', 'u', '\x7b'] ++ Nat.toDigits 16 c.toNat ++ ['\x7d']

/-- A string with its quotes, as a dump shows it. -/
def render (text : String) : String :=
  .ofList (['"'] ++ text.toList.flatMap char ++ ['"'])

end Quoted
end Text
end FrameCode
