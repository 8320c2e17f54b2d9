import DataContract.Text.Blank

/-!
# Names

A declaration stands in a namespace, whose dotted name is kept as it was written.  What counts of
it are its *segments*: the parts between the dots, trimmed, without those that are blank.
`Namespace.canonical` joins them again.

The qualified name of a type lists the segments of its namespace, the types around it from the
outside in, and the type itself.  A generic type is known by its name and the number of its type
parameters.
-/

namespace DataContract.Declaration

/-- A namespace by its dotted name as written. -/
structure Namespace where
  text : String
  deriving DecidableEq, Repr

namespace Namespace

/-- The segments of a dotted name given by its characters. -/
def segmentChars (cs : List Char) : List (List Char) :=
  ((Text.splitWhere (· == '.') cs).map Text.trimChars).filter fun segment => !segment.isEmpty

/-- The parts between the dots, trimmed, without the blank ones. -/
def segments (n : Namespace) : List String := (segmentChars n.text.toList).map String.ofList

/-- The segments joined by dots. -/
def canonical (n : Namespace) : String := String.intercalate "." n.segments

end Namespace

/-- One part of a qualified name: a name and the number of type parameters, which is zero for a
namespace. -/
structure Segment where
  name : String
  arity : Nat
  deriving DecidableEq, Repr

namespace Segment

/-- The name, followed by a backquote and the number of type parameters if there are any. -/
def text (s : Segment) : String :=
  if s.arity = 0 then s.name else s!"{s.name}`{s.arity}"

end Segment

/-- The name of a type with everything around it. -/
structure QualifiedName where
  segments : List Segment
  deriving DecidableEq, Repr

namespace QualifiedName

/-- The segments joined by dots. -/
def text (n : QualifiedName) : String := String.intercalate "." (n.segments.map Segment.text)

/-- The segment of the type itself. -/
def last? (n : QualifiedName) : Option Segment := n.segments.getLast?

end QualifiedName

end DataContract.Declaration
