/-!
# Document trees

- `Attribute`: an attribute with its namespace, if it has one
- `Node`: elements, text, comments and processing instructions
- `Element`: an element with its attributes and children
-/

namespace FrameCode
namespace Markup

/-- An attribute of an element; one without qualifier has no namespace. -/
structure Attribute where
  space : Option String
  name : String
  value : String
  deriving DecidableEq, Repr

/-- A node of a document. -/
inductive Node where
  | element (name : String) (attributes : List Attribute) (children : List Node)
  | text (content : String)
  | comment (content : String)
  | instruction (target content : String)

/-- An element: its name without qualifier, its attributes and its children. -/
structure Element where
  name : String
  attributes : List Attribute
  children : List Node

namespace Node

/-- A node that is an element. -/
def element? : Node → Option Element
  | element name attributes children => some ⟨name, attributes, children⟩
  | text _ => none
  | comment _ => none
  | instruction _ _ => none

end Node

namespace Element

def toNode (e : Element) : Node :=
  .element e.name e.attributes e.children

/-- The children that are elements. -/
def elements (e : Element) : List Element :=
  e.children.filterMap Node.element?

/-- The value of the attribute of a given name that has no namespace. -/
def attribute? (e : Element) (name : String) : Option String :=
  (e.attributes.find? fun a => a.space = none && a.name = name).map Attribute.value

/-- The text of an element: its first child, if that is text, and nothing otherwise. -/
def text (e : Element) : String :=
  match e.children.head? with
  | some (.text content) => content
  | _ => ""

end Element

end Markup
end FrameCode
