import DataContract.Declaration.Attribute
import DataContract.Declaration.Kind
import DataContract.Declaration.Member
import DataContract.Declaration.Name

/-!
# Candidates

A `TypeHeader` holds what it takes to open a type again: its modifiers, kind, name and type
parameters.  A `Candidate` is a type that is offered for generation, together with the headers of
the types around it, outermost first, and the namespace around those.
-/

namespace DataContract.Declaration

/-- The header of a type declaration. -/
structure TypeHeader where
  name : String
  kind : TypeKind
  modifiers : Modifiers
  typeParameters : List String
  deriving DecidableEq, Repr

namespace TypeHeader

/-- The header with just a kind and a name. -/
def ofName (kind : TypeKind) (name : String) : TypeHeader := ⟨name, kind, [], []⟩

/-- The number of type parameters. -/
def arity (h : TypeHeader) : Nat := h.typeParameters.length

/-- How the type is referred to from inside its own body. -/
def reference (h : TypeHeader) : String :=
  if h.typeParameters.isEmpty then h.name
  else h.name ++ "<" ++ String.intercalate ", " h.typeParameters ++ ">"

/-- The part of a qualified name that stands for the type. -/
def segment (h : TypeHeader) : Segment := ⟨h.name, h.arity⟩

end TypeHeader

/-- A type offered for generation: its header, its attributes and members in order, the headers
of the types around it from the outside in, and its namespace, if any. -/
structure Candidate where
  header : TypeHeader
  attributes : List AttributeUsage
  members : List Member
  enclosing : List TypeHeader
  within : Option Namespace
  deriving DecidableEq, Repr

namespace Candidate

/-- A type on its own. -/
def ofHeader (header : TypeHeader) : Candidate := ⟨header, [], [], [], none⟩

/-- The name of the type. -/
def name (c : Candidate) : String := c.header.name

/-- The modifiers of the type. -/
def modifiers (c : Candidate) : Modifiers := c.header.modifiers

/-- The uses of the attribute with the given full name, in order. -/
def usagesOf (c : Candidate) (path : String) : List AttributeUsage :=
  c.attributes.filter (·.is path)

/-- Whether the attribute with the given full name is applied to the type. -/
def hasAttribute (c : Candidate) (path : String) : Bool := c.attributes.any (·.is path)

/-- The headers from the outermost type to the candidate. -/
def chain (c : Candidate) : List TypeHeader := c.enclosing ++ [c.header]

/-- The segments of the namespace, none if there is no namespace. -/
def namespaceSegments (c : Candidate) : List String :=
  match c.within with
  | some n => n.segments
  | none => []

/-- The qualified name of the type. -/
def qualifiedName (c : Candidate) : QualifiedName :=
  ⟨c.namespaceSegments.map (⟨·, 0⟩) ++ c.chain.map TypeHeader.segment⟩

/-- The qualified name as diagnostics show it. -/
def target (c : Candidate) : String := c.qualifiedName.text

/-! ## Building candidates -/

/-- The candidate in the namespace of the given dotted name. -/
def inNamespace (c : Candidate) (text : String) : Candidate := { c with within := some ⟨text⟩ }

/-- The candidate with one more type around it, inside those it has already. -/
def nestedIn (c : Candidate) (header : TypeHeader) : Candidate :=
  { c with enclosing := c.enclosing ++ [header] }

/-- The candidate with one more attribute. -/
def withAttribute (c : Candidate) (usage : AttributeUsage) : Candidate :=
  { c with attributes := c.attributes ++ [usage] }

/-- The candidate with one more member. -/
def withMember (c : Candidate) (member : Member) : Candidate :=
  { c with members := c.members ++ [member] }

end Candidate

end DataContract.Declaration
