import FrameCode.Markup.Char

/-!
# Scanning

A scanner takes characters from the front of a text and fails if they are not what it expects.

- `Scan`: scanners
- `Scan.literal`, `Scan.spaces`, `Scan.legalWhile`, `Scan.legalUntil`: the building blocks
-/

namespace FrameCode
namespace Markup

/-- A scanner: a result and the characters after it, or failure. -/
abbrev Scan := StateT (List Char) Option

namespace Scan

/-- Whether a given text comes next. -/
def startsWith (text : String) : Scan Bool := do
  return text.toList.isPrefixOf (← get)

/-- Takes a given text. -/
def literal (text : String) : Scan Unit := fun input =>
  if text.toList.isPrefixOf input then some ((), input.drop text.toList.length) else none

/-- Takes characters as long as a condition holds. -/
def takeWhile (p : Char → Bool) : Scan (List Char) := fun input =>
  some (input.span p)

/-- Takes any white space, and tells whether there was some. -/
def spaces : Scan Bool := do
  return !(← takeWhile isSpace).isEmpty

/-- Takes characters as long as a condition holds; all of them must be legal. -/
def legalWhile (p : Char → Bool) : Scan (List Char) := do
  let run ← takeWhile p
  if run.all isLegal then return run else failure

/-- Cuts a text at the first occurrence of a mark. -/
def cutAt (mark : List Char) : List Char → Option (List Char × List Char)
  | [] => if mark.isEmpty then some ([], []) else none
  | c :: rest =>
    if mark.isPrefixOf (c :: rest) then
      some ([], (c :: rest).drop mark.length)
    else
      (cutAt mark rest).map fun (before, after) => (c :: before, after)

/-- Takes everything up to the first occurrence of a mark, and the mark; the characters before the
mark must be legal. -/
def legalUntil (mark : String) : Scan (List Char) := do
  let run ← cutAt mark.toList
  if run.all isLegal then return run else failure

end Scan

end Markup
end FrameCode
