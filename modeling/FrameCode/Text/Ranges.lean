/-!
# Character classes as ascending ranges

A character class is written down as a list of closed code point ranges in ascending order, so
that membership stops at the first range that begins past the character.

- `Ranges`: the list of ranges
- `Ranges.contains`: membership of a character
-/

namespace FrameCode
namespace Text

/-- Closed ranges of code points, first to last, in ascending order and without overlap. -/
abbrev Ranges := List (Nat × Nat)

namespace Ranges

/-- Whether a code point lies in one of the ranges; a range that begins past it ends the search. -/
def containsCode : Ranges → Nat → Bool
  | [], _ => false
  | (first, last) :: later, code =>
    if code < first then false else if code ≤ last then true else containsCode later code

/-- Whether a character lies in one of the ranges. -/
def contains (ranges : Ranges) (c : Char) : Bool :=
  ranges.containsCode c.toNat

end Ranges

end Text
end FrameCode
