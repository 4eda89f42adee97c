import FrameCode.Markup.Namespace

/-!
# From tokens to trees

The tokens of a document are put together to one tree, whose root is the only element outside all
others.

- `Pending`: an element whose end tag has not come yet
- `Progress`: what has been read of a document
- `Element.ofTokens?`, `Element.parse?`: the root element of a document
-/

namespace FrameCode
namespace Markup

/-! ## Elements -/

/-- An element whose end tag has not come yet, with its latest child first. -/
structure Pending where
  name : QualifiedName
  attributes : List Attribute
  bindings : Bindings
  children : List Node

namespace Pending

/-- The beginning of an element inside some bindings. -/
def open? (outer : Bindings) (name : QualifiedName) (raw : List RawAttribute) : Option Pending := do
  let written ← raw.mapM QualifiedAttribute.ofRaw?
  let (declarations, others) := written.partition QualifiedAttribute.isDeclaration
  let own ← declarations.foldlM QualifiedAttribute.declare? []
  let bindings := own ++ outer
  let attributes ← others.mapM (QualifiedAttribute.resolve? bindings)
  if Attribute.distinct attributes && isElementQualifier bindings name.qualifier then
    return ⟨name, attributes, bindings, []⟩
  else
    failure

/-- The element, once its end tag has come. -/
def close (e : Pending) : Element :=
  ⟨e.name.base, e.attributes, e.children.reverse⟩

def add (e : Pending) (node : Node) : Pending :=
  { e with children := node :: e.children }

/-- Adds text; text directly after text is one node with it. -/
def addText (e : Pending) (content : String) : Pending :=
  match e.children with
  | .text before :: earlier => { e with children := .text (before ++ content) :: earlier }
  | _ => e.add (.text content)

end Pending

/-! ## Trees -/

/-- What has been read of a document: the elements that are open, the innermost first, and the root
element once it is complete. -/
structure Progress where
  pending : List Pending
  root : Option Element

namespace Progress

/-- The bindings at this point of the document. -/
def bindings (s : Progress) : Bindings :=
  match s.pending with
  | [] => []
  | e :: _ => e.bindings

/-- Adds a complete element to the one around it; without one it is the root, which is the only
one. -/
def complete (s : Progress) (e : Element) : Option Progress :=
  match s.pending with
  | parent :: outer => some { s with pending := parent.add e.toNode :: outer }
  | [] => if s.root.isNone then some { s with root := some e } else none

/-- Adds a node that may also stand outside the root element, where it does not count. -/
def addMiscellaneous (s : Progress) (node : Node) : Progress :=
  match s.pending with
  | parent :: outer => { s with pending := parent.add node :: outer }
  | [] => s

/-- Takes a token. -/
def step (s : Progress) : Token → Option Progress
  | .startTag name attributes closed => do
    let e ← Pending.open? s.bindings name attributes
    if closed then s.complete e.close
    else if s.pending.isEmpty && s.root.isSome then failure
    else return { s with pending := e :: s.pending }
  | .endTag name =>
    match s.pending with
    | e :: outer => if e.name = name then { s with pending := outer }.complete e.close else none
    | [] => none
  | .text raw =>
    match s.pending with
    | e :: outer => do
      let content ← textContent? raw
      return { s with pending := e.addText (.ofList content) :: outer }
    | [] => if raw.all isSpace then some s else none
  | .verbatim raw =>
    match s.pending with
    | e :: outer => some { s with pending := e.addText (.ofList (verbatimContent raw)) :: outer }
    | [] => none
  | .comment content => some (s.addMiscellaneous (.comment (.ofList content)))
  | .instruction target content =>
    some (s.addMiscellaneous (.instruction (.ofList target) (.ofList content)))

end Progress

namespace Element

/-- The root element of a document, which is its only element outside others. -/
def ofTokens? (tokens : List Token) : Option Element := do
  let last ← tokens.foldlM Progress.step ⟨[], none⟩
  if last.pending.isEmpty then last.root else none

/-- The root element of a document; there is none if the document is not well-formed. -/
def parse? (text : String) : Option Element := do
  ofTokens? (← Token.all? text.toList)

end Element

end Markup
end FrameCode
