import DataContract.Declaration.Modifier

/-!
# Members

A type lists its own members in the order of their declaration.  Fields, properties and methods
are described as far as they may supply settings; constructors, events, nested types and the like
are all *other* members.
-/

namespace DataContract.Declaration

/-- A parameter of a method. -/
structure Parameter where
  type : String
  name : String
  deriving DecidableEq, Repr

/-- A field declaration, which may introduce several variables; `names` are their names in order. -/
structure FieldDeclaration where
  modifiers : Modifiers
  type : String
  names : List String
  deriving DecidableEq, Repr

/-- A property declaration. -/
structure PropertyDeclaration where
  modifiers : Modifiers
  type : String
  name : String
  deriving DecidableEq, Repr

/-- A method declaration. -/
structure MethodDeclaration where
  modifiers : Modifiers
  returnType : String
  name : String
  parameters : List Parameter
  deriving DecidableEq, Repr

/-- The declaration of a member of any other sort, which may have no name. -/
structure OtherDeclaration where
  modifiers : Modifiers
  name : Option String
  deriving DecidableEq, Repr

/-- A member of a type. -/
inductive Member
  | field (declaration : FieldDeclaration)
  | property (declaration : PropertyDeclaration)
  | method (declaration : MethodDeclaration)
  | other (declaration : OtherDeclaration)
  deriving DecidableEq, Repr

namespace Member

/-- The modifiers of a member. -/
def modifiers : Member → Modifiers
  | field d => d.modifiers
  | property d => d.modifiers
  | method d => d.modifiers
  | other d => d.modifiers

/-- Whether a member belongs to the type and not to its instances. -/
def isStatic (m : Member) : Bool := m.modifiers.isStatic

/-- The name of a member, which for a field is that of its first variable. -/
def name? : Member → Option String
  | field d => d.names.head?
  | property d => some d.name
  | method d => some d.name
  | other d => d.name

end Member

end DataContract.Declaration
