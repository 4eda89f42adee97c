import FrameCode.Markup.Name

/-!
# Tokens of documents

A document is a sequence of tags, runs of text, comments and processing instructions.

- `Token`: one of them, with text and attribute values as they are written
- `Token.next`: takes a token
- `Token.all?`: the tokens of a whole document
-/

namespace FrameCode
namespace Markup

/-- An attribute as it is written. -/
structure RawAttribute where
  name : QualifiedName
  value : List Char
  deriving DecidableEq

/-- A piece of a document as it is written. -/
inductive Token where
  /-- A start tag; it may close itself. -/
  | startTag (name : QualifiedName) (attributes : List RawAttribute) (closed : Bool)
  | endTag (name : QualifiedName)
  | text (raw : List Char)
  /-- Text in which markup has no meaning. -/
  | verbatim (raw : List Char)
  | comment (content : List Char)
  | instruction (target content : List Char)
  deriving DecidableEq

namespace Token

open Scan

/-! ## Tags -/

/-- Takes a quotation mark. -/
def quote : Scan Char := fun input =>
  match input with
  | '"' :: rest => some ('"', rest)
  | '\'' :: rest => some ('\'', rest)
  | _ => none

/-- Takes an attribute: a name, an equals sign and a value in quotation marks. -/
def oneAttribute : Scan RawAttribute := do
  let name ← qualifiedName
  let _ ← spaces
  literal "="
  let _ ← spaces
  let mark ← quote
  let value ← legalWhile fun c => c ≠ mark && c ≠ '<'
  literal (.singleton mark)
  return ⟨name, value⟩

/-- Takes attributes, each after white space, and the end of the tag; tells whether the tag closes
itself. -/
def attributes : Nat → Scan (List RawAttribute × Bool)
  | 0 => failure
  | fuel + 1 => do
    let spaced ← spaces
    if ← startsWith "/" then
      literal "/>"
      return ([], true)
    else if ← startsWith ">" then
      literal ">"
      return ([], false)
    else if spaced then
      let first ← oneAttribute
      let (later, closed) ← attributes fuel
      return (first :: later, closed)
    else
      failure

/-- Takes the rest of a start tag with at most a given number of attributes. -/
def startTagAfterMark (bound : Nat) : Scan Token := do
  let name ← qualifiedName
  let (attributes, closed) ← attributes (bound + 1)
  return .startTag name attributes closed

def endTagAfterMark : Scan Token := do
  let name ← qualifiedName
  let _ ← spaces
  literal ">"
  return .endTag name

/-! ## Other tokens -/

/-- Whether a text contains a mark. -/
def containsMark (mark : String) (text : List Char) : Bool :=
  (cutAt mark.toList text).isSome

/-- Takes the rest of a comment, which neither contains two hyphens nor ends in one. -/
def commentAfterMark : Scan Token := do
  let content ← legalUntil "-->"
  if containsMark "--" content || content.getLast? = some '-' then
    failure
  else
    return .comment content

/-- Takes the rest of a processing instruction. -/
def instructionAfterMark : Scan Token := do
  if ← startsWith "xml " then failure
  let target ← name
  let _ ← spaces
  let content ← legalUntil "?>"
  return .instruction target content

def verbatimAfterMark : Scan Token := do
  let content ← legalUntil "]]>"
  return .verbatim content

/-- Takes a run of text, up to the next markup. -/
def textRun : Scan Token := do
  let raw ← legalWhile (· ≠ '<')
  if containsMark "]]>" raw then failure else return .text raw

/-- Takes a token, with at most a given number of attributes; its first characters tell its kind. -/
def next (bound : Nat) : Scan Token := do
  if ← startsWith "<!--" then
    literal "<!--"
    commentAfterMark
  else if ← startsWith "<![CDATA[" then
    literal "<![CDATA["
    verbatimAfterMark
  else if ← startsWith "<?" then
    literal "<?"
    instructionAfterMark
  else if ← startsWith "</" then
    literal "</"
    endTagAfterMark
  else if ← startsWith "<" then
    literal "<"
    startTagAfterMark bound
  else
    textRun

/-! ## Documents -/

/-- Takes tokens up to the end of the text, which is shorter than the given number.  Tokens and
attributes have at least one character, so there are no more of them than that. -/
def many : Nat → Scan (List Token)
  | 0 => failure
  | fuel + 1 => do
    if (← get).isEmpty then
      return []
    else
      let first ← next fuel
      let later ← many fuel
      return first :: later

/-- White space that separates the parts of a declaration; there need be none before its end. -/
def declarationSpaces : Scan Unit := do
  let spaced ← spaces
  if spaced || (← startsWith "?>") || (← get).isEmpty then return () else failure

/-- Takes a part of a declaration that begins with a given word, if it comes next. -/
def declarationPart (word : String) : Scan Unit := do
  if ← startsWith word then
    let _ ← oneAttribute
    declarationSpaces

/-- Takes the declaration of the version of the markup, if the text begins with one.  The values in
it have no meaning. -/
def declaration : Scan Unit := do
  if ← startsWith "<?xml " then
    literal "<?xml"
    declarationSpaces
    if ← startsWith "version" then
      declarationPart "version"
      declarationPart "encoding"
      if ← startsWith "standalone" then
        let _ ← oneAttribute
      let _ ← spaces
      literal "?>"
    else
      failure

/-- Takes a byte order mark, if the text begins with one. -/
def byteOrderMark : Scan Unit := do
  if ← startsWith "\ufeff" then
    literal "\ufeff"

/-- The tokens of a document, after its byte order mark and its declaration. -/
def all? (text : List Char) : Option (List Token) :=
  let scan : Scan (List Token) := do
    byteOrderMark
    declaration
    many ((← get).length + 1)
  (scan.run text).map Prod.fst

end Token

end Markup
end FrameCode
