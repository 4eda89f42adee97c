import FrameCode.Text.Ranges

/-!
# Characters of documents

- `isSpace`: the white space of markup
- `isLegal`: the characters that a document may contain
- `isNameStart`, `isNameChar`: the characters of names
-/

namespace FrameCode
namespace Markup

/-- Space, tab, line feed and carriage return. -/
def isSpace (c : Char) : Bool :=
  c == ' ' || c == '\t' || c == '\n' || c == '\r'

/-- Whether a document may contain a character: no control characters other than white space, and
neither U+FFFE nor U+FFFF. -/
def isLegal (c : Char) : Bool :=
  if c.toNat < 0x20 then isSpace c else c.toNat != 0xfffe && c.toNat != 0xffff

/-- The characters that a name can begin with. -/
def nameStartRanges : Text.Ranges :=
  [ (0x3a, 0x3a), (0x41, 0x5a), (0x5f, 0x5f), (0x61, 0x7a), (0xc0, 0xd6), (0xd8, 0xf6),
    (0xf8, 0x2ff), (0x370, 0x37d), (0x37f, 0x1fff), (0x200c, 0x200d), (0x2070, 0x218f),
    (0x2c00, 0x2fef), (0x3001, 0xd7ff), (0xf900, 0xfdcf), (0xfdf0, 0xfffd), (0x10000, 0xeffff) ]

/-- The characters that a name can contain: those that it can begin with, digits, the signs `-` and
`.`, the middle dot and combining characters. -/
def nameRanges : Text.Ranges :=
  [ (0x2d, 0x2e), (0x30, 0x3a), (0x41, 0x5a), (0x5f, 0x5f), (0x61, 0x7a), (0xb7, 0xb7),
    (0xc0, 0xd6), (0xd8, 0xf6), (0xf8, 0x37d), (0x37f, 0x1fff), (0x200c, 0x200d),
    (0x203f, 0x2040), (0x2070, 0x218f), (0x2c00, 0x2fef), (0x3001, 0xd7ff), (0xf900, 0xfdcf),
    (0xfdf0, 0xfffd), (0x10000, 0xeffff) ]

def isNameStart (c : Char) : Bool :=
  nameStartRanges.contains c

def isNameChar (c : Char) : Bool :=
  nameRanges.contains c

end Markup
end FrameCode
