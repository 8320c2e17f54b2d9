import DataContract.Marker.Expression
import DataContract.Marker.Parser

/-!
# The grammar of values

The rules for expressions, types, patterns, statements and declarations refer to each other.  Each
rule is an ordinary function that takes the parsers it refers to as a `Grammar`.
`Marker/Grammar.lean` ties the knot: the grammar of depth `n + 1` consists of the rules over the
grammar of depth `n`.  A rule takes at least one token before it refers to the grammar, except that
statements begin with an expression.  So with every token the depth falls by two at most.

Everything but expressions is only recognized, since no option depends on what it says.  A few
restrictions look back at what has been recognized, and for them a rule returns what matters.
-/

namespace DataContract.Marker

open DataContract.Marker.Parser

/-! ## What matters about what has been recognized -/

/-- Where a type stands. -/
inductive TypePlace
  /-- Where bounds may be added with a plus sign. -/
  | loose
  /-- Where a plus sign does not belong to the type. -/
  | tight
  /-- Behind `as`, where parentheses do not belong to the type either. -/
  | cast
  deriving DecidableEq, Repr

/-- The form of a type, as far as it matters. -/
inductive TypeForm
  /-- A single name, possibly with arguments in angle brackets. -/
  | name
  /-- Any other path that does not begin with a type in angle brackets. -/
  | path
  /-- Bounds without `dyn`, and whether more of them may follow. -/
  | bounds (extensible : Bool)
  /-- A type in parentheses. -/
  | paren
  | other
  deriving DecidableEq, Repr

/-- What matters about a type: its form, and whether it ends with a brace of its own. -/
structure TypeShape where
  form : TypeForm
  braced : Bool
  deriving DecidableEq, Repr

/-- A type of no particular form that does not end with a brace. -/
def TypeShape.plain : TypeShape := ⟨.other, false⟩

/-- What matters about a bound: whether it is a trait, and whether it ends with a brace of its
own. -/
structure BoundShape where
  isTrait : Bool
  braced : Bool
  deriving DecidableEq, Repr

/-- Where a bound stands: whether it may be a list of captured names, and whether it may be
constant. -/
structure BoundPlace where
  capture : Bool
  constant : Bool
  deriving DecidableEq, Repr

namespace BoundPlace

/-- With the parameters of a declaration. -/
def parameter : BoundPlace := ⟨false, true⟩

/-- With the type of an object. -/
def object : BoundPlace := ⟨false, false⟩

/-- With a hidden type. -/
def hidden : BoundPlace := ⟨true, true⟩

end BoundPlace

/-! ## The grammar -/

/-- The parsers that rules refer to.  Those of expressions are told whether a brace may follow a
name to make a structure.  The parser of arguments in angle brackets returns whether there are any,
that of patterns whether the pattern is a range that lacks an end, and that of imports is told
whether a path may begin at the root. -/
structure Grammar where
  expression : Bool → Parser Expr
  unary : Bool → Parser Expr
  climb : Expr → Bool → Level → Parser Expr
  statementExpression : Parser Expr
  statements : Parser Unit
  type : TypePlace → Parser TypeShape
  genericArguments : Parser Bool
  bound : BoundPlace → Parser BoundShape
  pattern : Parser Bool
  importTree : Bool → Parser Unit
  fields : Parser Unit
  declaration : Parser Unit

namespace Grammar

/-- The grammar in which nothing can be parsed. -/
def empty : Grammar where
  expression _ := fail (.expected "an expression")
  unary _ := fail (.expected "an expression")
  climb _ _ _ := fail (.expected "an expression")
  statementExpression := fail (.expected "an expression")
  statements := fail (.expected "a statement")
  type _ := fail (.expected "a type")
  genericArguments := fail (.expected "a type")
  bound _ := fail (.expected "a type")
  pattern := fail (.expected "a pattern")
  importTree _ := fail (.expected "a path")
  fields := fail (.expected "fields")
  declaration := fail (.expected "a declaration")

variable (g : Grammar)

/-- Takes a value behind an equals sign.  A literal that nothing follows is taken as it is, so a
negative number is one literal there. -/
def value : Parser Expr := do
  mark "="
  let ts ← rest
  match literalAt? ts with
  | some (l, []) =>
    continueAt []
    return .literal l
  | _ =>
    if startsMark ['#'] ts && startsWith (Token.isGroup .bracket) ts.tail then
      fail .attributeInValue
    else g.expression true

/-- Whether a word stands at the front that can begin a path. -/
def startsPathWord (ts : List Token) : Bool :=
  ["super", "self", "Self", "crate"].any (startsWord · ts)

/-- Takes a path without arguments, and returns whether it is rooted and its segments. -/
def simplePath : Parser (Bool × List String) := do
  let rooted ← mark? "::"
  let segments ← repeating (fun done => do
    let ts ← rest
    if startsWith Token.isIdent ts || startsPathWord ts then
      let segment ← anyIdent
      if ← mark? "::" then return .again (segment :: done)
      else return .done (segment :: done)
    else if done.isEmpty then
      let segment ← ident
      return .done [segment]
    else fail (.expected "path segment after `::`")) []
  return (rooted, segments.reverse)

/-- Whether a group stands at the front. -/
def startsGroup (ts : List Token) : Bool :=
  [Delimiter.parenthesis, .bracket, .brace].any fun d => startsWith (Token.isGroup d) ts

/-- Passes over a group and returns its delimiters. -/
def anyGroup : Parser Delimiter := do
  match ← rest with
  | .group d _ :: _ =>
    drop 1
    return d
  | _ => fail (.expected "delimiter")

/-- Passes over a group between given delimiters, whatever it holds. -/
def passGroup (d : Delimiter) : Parser Unit := inside d (continueAt [])

/-- Whether an equals sign stands at the front that is no part of another operator. -/
def startsEquals (ts : List Token) : Bool :=
  startsMark ['='] ts && !startsMark ['=', '='] ts && !startsMark ['=', '>'] ts

/-- Takes the content of an attribute. -/
def annotationContent : Parser Unit := do
  if !(← word? "unsafe") then
    let _ ← simplePath
  let ts ← rest
  if startsGroup ts then
    let _ ← anyGroup
  else if startsEquals ts then
    let _ ← g.value

/-- Takes an attribute. -/
def annotation : Parser Unit := do
  mark "#"
  inside .bracket g.annotationContent

/-- Takes attributes and returns whether there were any. -/
def attributes : Parser Bool :=
  repeating (fun found => do
    if ← looking (startsMark ['#']) then
      g.annotation
      return .again true
    else return .done found) false

/-- Takes the attributes inside of a block. -/
def innerAttributes : Parser Unit :=
  repeating (fun _ => do
    let ts ← rest
    if startsMark ['#'] ts && startsMark ['!'] ts.tail then
      drop 2
      inside .bracket g.annotationContent
      return .again ()
    else return .done ()) ()

/-- Takes a block of statements. -/
def block : Parser Unit := inside .brace g.statements

/-- Takes a block of statements that may begin with attributes. -/
def blockWithAttributes : Parser Unit := inside .brace do
  g.innerAttributes
  g.statements

/-- Takes an expression that is named `builtin`, from behind that word. -/
def builtin : Parser Unit := do
  mark "#"
  let _ ← ident
  passGroup .parenthesis

/-- Whether something named `builtin` stands at the front. -/
def startsBuiltin (ts : List Token) : Bool :=
  startsWord "builtin" ts && startsMark ['#'] ts.tail

end Grammar

end DataContract.Marker
