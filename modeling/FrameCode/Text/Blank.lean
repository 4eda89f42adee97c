import FrameCode.Text.Ranges

/-!
# White space and control characters

- `isBlank`: the Unicode property White_Space
- `isControl`: the general category Cc
- `trimEnd`, `trim`: removal of white space at the end, and at both ends
-/

namespace FrameCode
namespace Text

/-- The characters with the Unicode property White_Space. -/
def blankRanges : Ranges :=
  [ (0x9, 0xd), (0x20, 0x20), (0x85, 0x85), (0xa0, 0xa0), (0x1680, 0x1680), (0x2000, 0x200a),
    (0x2028, 0x2029), (0x202f, 0x202f), (0x205f, 0x205f), (0x3000, 0x3000) ]

/-- Whether a character is white space. -/
def isBlank (c : Char) : Bool :=
  blankRanges.contains c

/-- Whether a character is a control character. -/
def isControl (c : Char) : Bool :=
  c.toNat < 0x20 || (0x7f ≤ c.toNat && c.toNat < 0xa0)

/-! ## Trimming -/

/-- Drops the white space at the end of a text. -/
def trimEnd (text : List Char) : List Char :=
  (text.reverse.dropWhile isBlank).reverse

/-- Drops the white space at both ends of a text. -/
def trim (text : String) : String :=
  .ofList (trimEnd (text.toList.dropWhile isBlank))

end Text
end FrameCode
