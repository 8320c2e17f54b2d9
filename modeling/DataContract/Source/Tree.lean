import DataContract.Declaration.Candidate

/-!
# Source trees

A generated unit is a tree: namespaces and types with a body, and methods.  A method consists of
statements from a small repertoire, and of its documentation.
-/

namespace DataContract.Source

open Declaration

/-- What a generated method does. -/
inductive MethodKind
  | staticWrite
  | staticRead
  | instanceWrite
  deriving DecidableEq, Repr

/-- Whether a method of this kind belongs to the type and not to its instances. -/
def MethodKind.isStatic : MethodKind → Bool
  | instanceWrite => false
  | _ => true

/-- A statement. -/
inductive Statement
  /-- Throws unless the parameter has a value. -/
  | throwIfNull (parameter : String)
  /-- Makes a serializer for a type, with the settings that an expression supplies, if any. -/
  | constructSerializer (serializerType targetType : String) (settings : Option String)
  /-- Writes an instance into a stream. -/
  | writeObject (stream subject : String)
  /-- Returns what a stream holds as a value of a type. -/
  | readObject (stream targetType : String)
  /-- Calls another method. -/
  | forward (method : String) (arguments : List String)
  deriving DecidableEq, Repr

namespace Statement

/-- Whether a statement guards against a missing argument. -/
def isGuard : Statement → Bool
  | throwIfNull _ => true
  | _ => false

/-- Whether a statement makes a serializer. -/
def isConstruction : Statement → Bool
  | constructSerializer .. => true
  | _ => false

end Statement

/-- The documentation of a method: a summary, a text for each parameter, what it returns, and the
parameters that it throws for. -/
structure Documentation where
  summary : String
  parameters : List (String × String)
  returns : Option String
  throwsFor : List String
  deriving DecidableEq, Repr

/-- A method. -/
structure Method where
  kind : MethodKind
  name : String
  returnType : String
  parameters : List Parameter
  body : List Statement
  documentation : Documentation
  deriving DecidableEq, Repr

/-- The statement of a method that makes its serializer. -/
def Method.construction? (m : Method) : Option Statement := m.body.find? Statement.isConstruction

/-- A part of a source tree. -/
inductive Node
  | space (name : String) (body : List Node)
  | type (header : TypeHeader) (body : List Node)
  | method (m : Method)
  deriving Repr

namespace Node

/-- The parts directly inside a part. -/
def children : Node → List Node
  | space _ body => body
  | type _ body => body
  | method _ => []

/-- The name of the namespace that a tree consists of. -/
def spaceName? : Node → Option String
  | space name _ => some name
  | _ => none

mutual

/-- The type headers in a tree, the outer ones before the inner ones. -/
def headers : Node → List TypeHeader
  | space _ body => bodyHeaders body
  | type header body => header :: bodyHeaders body
  | method _ => []

/-- The type headers in a body. -/
def bodyHeaders : List Node → List TypeHeader
  | [] => []
  | node :: rest => node.headers ++ bodyHeaders rest

end

mutual

/-- The methods in a tree, in order. -/
def methods : Node → List Method
  | space _ body => bodyMethods body
  | type _ body => bodyMethods body
  | method m => [m]

/-- The methods in a body. -/
def bodyMethods : List Node → List Method
  | [] => []
  | node :: rest => node.methods ++ bodyMethods rest

end

end Node

end DataContract.Source
