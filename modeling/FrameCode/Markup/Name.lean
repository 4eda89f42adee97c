import FrameCode.Markup.Scan

/-!
# Names in markup

- `QualifiedName`: a name with an optional qualifier, written `qualifier:base`
- `Scan.qualifiedName`, `Scan.name`
-/

namespace FrameCode
namespace Markup

/-- A name and its qualifier, which is empty if there is none. -/
structure QualifiedName where
  qualifier : String
  base : String
  deriving DecidableEq, Repr

/-- Whether a list of characters begins like a name. -/
def startsName (text : List Char) : Bool :=
  text.head?.any isNameStart

namespace QualifiedName

/-- Splits a run of name characters at its colon.  There is at most one colon, the base is not
empty, and both parts begin like names; the qualifier may be empty. -/
def ofChars? (run : List Char) : Option QualifiedName :=
  match run.span (· ≠ ':') with
  | (base, []) => if startsName base then some ⟨"", .ofList base⟩ else none
  | (qualifier, _ :: base) =>
    if (qualifier.isEmpty || startsName qualifier) && startsName base && !base.contains ':' then
      some ⟨.ofList qualifier, .ofList base⟩
    else
      none

end QualifiedName

namespace Scan

/-- Takes a name of an element or attribute. -/
def qualifiedName : Scan QualifiedName := do
  let run ← takeWhile isNameChar
  match QualifiedName.ofChars? run with
  | some name => return name
  | none => failure

/-- Takes a name in which colons have no meaning. -/
def name : Scan (List Char) := do
  let run ← takeWhile isNameChar
  if startsName run then return run else failure

end Scan

end Markup
end FrameCode
