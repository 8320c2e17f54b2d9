import DataContract.Marker.Token

/-!
# Expressions

The value of an argument is an expression.  Only literals, names, members, calls and parentheses
can ever supply an option, so these are kept as trees.  Of every other expression just its kind is
kept, which is what a message about it says.
-/

namespace DataContract.Marker

/-- How tightly an operator binds its operands, from the loosest to the tightest. -/
inductive Level
  | jump
  | assign
  | range
  | disjunction
  | conjunction
  | binding
  | compare
  | bitOr
  | bitXor
  | bitAnd
  | shift
  | sum
  | product
  | cast
  deriving DecidableEq, Repr

namespace Level

/-- The levels as numbers, a tighter one being greater. -/
def rank : Level → Nat
  | jump => 0
  | assign => 1
  | range => 2
  | disjunction => 3
  | conjunction => 4
  | binding => 5
  | compare => 6
  | bitOr => 7
  | bitXor => 8
  | bitAnd => 9
  | shift => 10
  | sum => 11
  | product => 12
  | cast => 13

end Level

/-- The kind of an expression that is not kept as a tree. -/
inductive ExprKind
  | array
  | assignment
  | asyncBlock
  | awaiting
  | block
  | breaking
  | cast
  | closure
  | condition
  | constBlock
  | continuing
  | forLoop
  | index
  | invocation
  | letCondition
  | loop
  | methodCall
  | placeholder
  | range
  | rawAddress
  | reference
  | repetition
  | returning
  | selection
  | struct
  | tryBlock
  | trying
  | tuple
  | unary
  | uncheckedBlock
  | verbatim
  | whileLoop
  | yielding
  deriving DecidableEq, Repr

namespace ExprKind

/-- The name of a kind of expression in messages. -/
def typeName : ExprKind → String
  | array => "array"
  | assignment => "assign"
  | asyncBlock => "async"
  | awaiting => "await"
  | block => "block"
  | breaking => "break"
  | cast => "cast"
  | closure => "closure"
  | condition => "if"
  | constBlock => "const"
  | continuing => "continue"
  | forLoop => "for_loop"
  | index => "index"
  | invocation => "macro"
  | letCondition => "let"
  | loop => "loop"
  | methodCall => "method_call"
  | placeholder => "infer"
  | range => "range"
  | rawAddress => "unknown"
  | reference => "reference"
  | repetition => "repeat"
  | returning => "return"
  | selection => "match"
  | struct => "struct"
  | tryBlock => "try_block"
  | trying => "try"
  | tuple => "tuple"
  | unary => "unary"
  | uncheckedBlock => "unsafe"
  | verbatim => "verbatim"
  | whileLoop => "while"
  | yielding => "yield"

/-- Whether an expression of this kind is complete as a statement without a semicolon. -/
def endsStatement : ExprKind → Bool
  | block | condition | constBlock | forLoop | loop | selection | tryBlock | uncheckedBlock
  | whileLoop => true
  | _ => false

end ExprKind

/-- A path: whether something stands in front of its first segment, whether no segment has
arguments, and the segments as they are spelled. -/
structure Path where
  rooted : Bool
  plain : Bool
  segments : List String
  deriving DecidableEq, Repr

/-- Whether a path is just a given name. -/
def Path.isName (p : Path) (name : String) : Bool :=
  !p.rooted && p.plain && p.segments == [name]

/-- An expression.  Of a member only its name is kept, and no name if it is a number. -/
inductive Expr
  | literal (l : Literal)
  | path (p : Path)
  | field (name : Option String)
  | paren (inner : Expr)
  | call (callee : Expr) (arguments : List Expr)
  /-- Two operands, and whether the right one ends with a brace of its own. -/
  | binary (level : Level) (braced : Bool)
  /-- An expression of another kind, and whether it ends with a brace of its own. -/
  | other (kind : ExprKind) (braced : Bool)
  deriving Repr

namespace Expr

/-- The name of an expression's kind in messages. -/
def typeName : Expr → String
  | literal _ => "lit"
  | path _ => "path"
  | field _ => "field"
  | paren _ => "paren"
  | call _ _ => "call"
  | binary _ _ => "binary"
  | other kind _ => kind.typeName

/-- Whether an expression is a range. -/
def isRange : Expr → Bool
  | other .range _ => true
  | _ => false

/-- Whether an expression compares. -/
def isComparison : Expr → Bool
  | binary .compare _ => true
  | _ => false

/-- Whether an expression is complete as a statement without a semicolon. -/
def endsStatement : Expr → Bool
  | other kind _ => kind.endsStatement
  | _ => false

/-- Whether an expression ends with a brace of its own. -/
def endsWithBrace : Expr → Bool
  | binary _ braced => braced
  | other _ braced => braced
  | _ => false

end Expr

end DataContract.Marker
