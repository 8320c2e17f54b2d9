/-!
# Kinds of type

Only a type that can be declared in several parts can receive members, so only the five kinds of
type for which that is possible are distinguished.
-/

namespace DataContract.Declaration

/-- The kind of a type.  An `interface` only occurs around other types. -/
inductive TypeKind
  | class_
  | interface
  | record
  | recordStruct
  | struct
  deriving DecidableEq, Repr

namespace TypeKind

/-- The words that declare a type of this kind. -/
def keyword : TypeKind → String
  | class_ => "class"
  | interface => "interface"
  | record => "record"
  | recordStruct => "record struct"
  | struct => "struct"

/-- Whether a value of a type of this kind is never null. -/
def isValueType : TypeKind → Bool
  | recordStruct | struct => true
  | _ => false

/-- The kinds by the names that documents give them. -/
def named : List (String × TypeKind) :=
  [("class", class_), ("interface", interface), ("record", record),
   ("record_struct", recordStruct), ("struct", struct)]

/-- The name that documents give to a kind. -/
def name : TypeKind → String
  | recordStruct => "record_struct"
  | kind => kind.keyword

end TypeKind

end DataContract.Declaration
