import FrameCode.Markup.Node
import FrameCode.Markup.Reference
import FrameCode.Markup.Token

/-!
# Namespaces

A qualifier of a name must be bound to a namespace by the element itself or by one around it.
Attributes that bind qualifiers do not count as attributes of the element.

- `Bindings`: the namespaces of the qualifiers in scope
- `QualifiedAttribute.declare?`: what a binding attribute adds to them
- `QualifiedAttribute.resolve?`: the namespace of any other attribute
-/

namespace FrameCode
namespace Markup

/-! ## Bindings -/

/-- Qualifiers with their namespaces, the innermost binding first. -/
abbrev Bindings := List (String × String)

/-- The name of a namespace that is given by a host and a path. -/
def webName (host path : String) : String :=
  "http:" ++ "//" ++ host ++ "/" ++ path

/-- The namespace that the qualifier `xml` of an attribute always has. -/
def xmlNamespace : String :=
  webName "www.w3.org" "XML/1998/namespace"

/-- The namespace of namespace declarations themselves. -/
def declarationNamespace : String :=
  webName "www.w3.org" "2000/xmlns/"

namespace Bindings

/-- Adds the binding of a qualifier; an element binds a qualifier once. -/
def add? (own : Bindings) (qualifier value : String) : Option Bindings :=
  if own.any (·.1 == qualifier) then none else some ((qualifier, value) :: own)

/-- Adds a declaration `xmlns:name="value"`.  The two reserved namespaces cannot be bound to other
qualifiers, and `xml` cannot be bound to another namespace; its own declaration adds nothing. -/
def declare? (own : Bindings) (qualifier value : String) : Option Bindings :=
  if value = declarationNamespace then none
  else if qualifier = "xml" then (if value = xmlNamespace then some own else none)
  else if value = xmlNamespace then none
  else own.add? qualifier value

/-- Adds a declaration `xmlns="value"`, which may be repeated.  It binds no qualifier, but cannot
name a reserved namespace. -/
def declareDefault? (own : Bindings) (value : String) : Option Bindings :=
  if value = declarationNamespace ∨ value = xmlNamespace then none else some own

end Bindings

/-! ## Attributes -/

/-- An attribute with its value, before its qualifier is resolved. -/
structure QualifiedAttribute where
  name : QualifiedName
  value : String
  deriving DecidableEq

namespace QualifiedAttribute

/-- An attribute with the characters that its value stands for. -/
def ofRaw? (raw : RawAttribute) : Option QualifiedAttribute :=
  (attributeValue? raw.value).map fun value => ⟨raw.name, .ofList value⟩

/-- Whether an attribute declares a namespace. -/
def isDeclaration (a : QualifiedAttribute) : Bool :=
  a.name.qualifier = "xmlns" || a.name.base = "xmlns"

/-- Adds the declaration that an attribute makes. -/
def declare? (own : Bindings) (a : QualifiedAttribute) : Option Bindings :=
  if a.name.qualifier = "xmlns" then own.declare? a.name.base a.value
  else own.declareDefault? a.value

/-- Resolves the qualifier of an attribute. -/
def resolve? (bindings : Bindings) (a : QualifiedAttribute) : Option Attribute :=
  if a.name.qualifier = "" then some ⟨none, a.name.base, a.value⟩
  else if a.name.qualifier = "xml" then some ⟨some xmlNamespace, a.name.base, a.value⟩
  else (bindings.lookup a.name.qualifier).map fun space => ⟨some space, a.name.base, a.value⟩

end QualifiedAttribute

/-- Whether two attributes have the same namespace and name. -/
def Attribute.sameName (a b : Attribute) : Bool :=
  a.space = b.space && a.name = b.name

/-- Whether no two attributes have the same namespace and name. -/
def Attribute.distinct : List Attribute → Bool
  | [] => true
  | a :: later => !later.any a.sameName && distinct later

/-- Whether an element may have a qualifier: none, or one that is bound.  An element cannot have
the qualifier `xml`, which nothing binds. -/
def isElementQualifier (bindings : Bindings) (qualifier : String) : Bool :=
  qualifier = "" || (qualifier ≠ "xmlns" && (bindings.lookup qualifier).isSome)

end Markup
end FrameCode
