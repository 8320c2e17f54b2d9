/-!
# Attributes

An attribute usage says which attribute is applied, by the full name of the attribute's type, and
with which arguments.  The arguments come in up to two forms: named constants that have been
evaluated already, and the text of the argument list as written.
-/

namespace DataContract.Declaration

/-- A constant that has been evaluated. -/
inductive Constant
  | null
  | boolean (b : Bool)
  | integer (n : Int64)
  | string (s : String)
  deriving DecidableEq, Repr

/-- A named argument of an attribute. -/
structure NamedArgument where
  name : String
  value : Constant
  deriving DecidableEq, Repr

/-- One use of an attribute: the full name of its type, the evaluated arguments, and the argument
list as written. -/
structure AttributeUsage where
  path : String
  named : List NamedArgument
  arguments : String
  deriving DecidableEq, Repr

namespace AttributeUsage

/-- Whether the attribute of the given full name is the one applied. -/
def is (usage : AttributeUsage) (path : String) : Bool := usage.path == path

end AttributeUsage

end DataContract.Declaration
