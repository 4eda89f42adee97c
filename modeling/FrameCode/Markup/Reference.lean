import FrameCode.Markup.Name

/-!
# Character references and line endings

A reference in a text stands for one character.  Line endings that are written out are normalised;
characters that come from references are not.

- `Piece`: a character of a text, written out or referenced
- `Piece.all?`: the pieces of a text
- `Piece.textLines`: the characters of a run of text
- `Piece.valueSpaces`: the characters of an attribute value
-/

namespace FrameCode
namespace Markup

/-- A character of a text, and whether it comes from a reference. -/
inductive Piece where
  | written (c : Char)
  | referenced (c : Char)
  deriving DecidableEq

namespace Piece

open Scan

/-! ## References -/

/-- The value of a hexadecimal digit. -/
def digitValue (c : Char) : Nat :=
  if c.isDigit then c.toNat - 48 else if c.isUpper then c.toNat - 55 else c.toNat - 87

def isHexDigit (c : Char) : Bool :=
  c.isDigit || ('a' ≤ c && c ≤ 'f') || ('A' ≤ c && c ≤ 'F')

/-- The character of a number.  A number that is no code point of a character stands for U+FFFD; the
character must be legal in a document. -/
def charOfCode? (n : Nat) : Option Char :=
  let c := if n.isValidChar then Char.ofNat n else '\ufffd'
  if isLegal c then some c else none

/-- The character that digits in a given base name.  There is at least one digit, and the number
fits into 32 bits. -/
def charOfDigits? (base : Nat) (digits : List Char) : Option Char :=
  let n := digits.foldl (fun n d => base * n + digitValue d) 0
  if digits.isEmpty || 0xffffffff < n then none else charOfCode? n

/-- The character of a predefined name. -/
def charOfName? (name : String) : Option Char :=
  [("quot", '"'), ("amp", '&'), ("apos", '\''), ("lt", '<'), ("gt", '>')].lookup name

/-- Takes the rest of a reference, after its ampersand. -/
def reference : Scan Char := do
  let c ←
    if ← startsWith "#x" then
      literal "#x"
      let digits ← takeWhile isHexDigit
      StateT.lift (charOfDigits? 16 digits)
    else if ← startsWith "#" then
      literal "#"
      let digits ← takeWhile Char.isDigit
      StateT.lift (charOfDigits? 10 digits)
    else
      let run ← name
      StateT.lift (charOfName? (.ofList run))
  literal ";"
  return c

/-- The pieces of a text of at most a given length. -/
def scan? : Nat → List Char → Option (List Piece)
  | _, [] => some []
  | 0, _ :: _ => none
  | fuel + 1, c :: rest =>
    if c = '&' then do
      let (c, rest) ← reference.run rest
      return referenced c :: (← scan? fuel rest)
    else do
      return written c :: (← scan? fuel rest)

/-- The pieces of a text, unless it contains something that looks like a reference and is none. -/
def all? (text : List Char) : Option (List Piece) :=
  scan? text.length text

/-! ## Line endings -/

/-- The characters of a run of text.  A written carriage return becomes a line feed, and takes a
written line feed after it along.  It is kept only next to a reference: before one, and at the end
of the run after one. -/
def textLines (afterReference : Bool) : List Piece → List Char
  | [] => []
  | referenced c :: rest => c :: textLines true rest
  | written '\r' :: [] => [if afterReference then '\r' else '\n']
  | written '\r' :: written '\n' :: rest => '\n' :: textLines false rest
  | written '\r' :: written c :: rest => '\n' :: textLines false (written c :: rest)
  | written '\r' :: referenced c :: rest => '\r' :: textLines false (referenced c :: rest)
  | written c :: rest => c :: textLines false rest

/-- The characters of an attribute value: written tabs and line endings become spaces, and a
carriage return before a line feed is dropped. -/
def valueSpaces : List Piece → List Char
  | [] => []
  | referenced c :: rest => c :: valueSpaces rest
  | written '\r' :: written '\n' :: rest => ' ' :: valueSpaces rest
  | written c :: rest =>
    (if c == '\t' || c == '\n' || c == '\r' then ' ' else c) :: valueSpaces rest

end Piece

/-- The characters that a run of text stands for. -/
def textContent? (raw : List Char) : Option (List Char) :=
  (Piece.all? raw).map (Piece.textLines false)

/-- The characters that an attribute value stands for. -/
def attributeValue? (raw : List Char) : Option (List Char) :=
  (Piece.all? raw).map Piece.valueSpaces

/-- The characters of text in which markup has no meaning. -/
def verbatimContent (raw : List Char) : List Char :=
  Piece.textLines false (raw.map .written)

end Markup
end FrameCode
