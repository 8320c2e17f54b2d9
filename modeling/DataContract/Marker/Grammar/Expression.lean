import DataContract.Marker.Grammar.Pattern
import DataContract.Marker.Grammar.Type

/-!
# The rules for expressions

An expression is a chain of operands with operators between them.  An operand is an atom with
operators in front and trailers behind it: calls, members, indices and question marks.

`climbRule` builds the chain from the left: an operator that binds at least as tightly as the
given level takes what follows as its right operand, as far as it binds more tightly.  Comparisons
do not chain, and nothing can follow a range.
-/

namespace DataContract.Marker.Grammar

open DataContract.Marker.Parser

variable (g : Grammar)

/-! ## Operators -/

/-- The operators with two operands, the longer ones first, and how tightly they bind. -/
def operators : List (List Char × Level) :=
  [(['+', '='], .assign), (['-', '='], .assign), (['*', '='], .assign), (['/', '='], .assign),
   (['%', '='], .assign), (['^', '='], .assign), (['&', '='], .assign), (['|', '='], .assign),
   (['<', '<', '='], .assign), (['>', '>', '='], .assign), (['&', '&'], .conjunction),
   (['|', '|'], .disjunction), (['<', '<'], .shift), (['>', '>'], .shift),
   (['=', '='], .compare), (['<', '='], .compare), (['!', '='], .compare),
   (['>', '='], .compare), (['+'], .sum), (['-'], .sum), (['*'], .product), (['/'], .product),
   (['%'], .product), (['^'], .bitXor), (['&'], .bitAnd), (['|'], .bitOr), (['<'], .compare),
   (['>'], .compare)]

/-- The operator at the front. -/
def operatorAt? (ts : List Token) : Option (List Char × Level) :=
  operators.find? fun (op, _) => startsMark op ts

/-- Whether an equals sign stands at the front that assigns. -/
def startsAssignment (ts : List Token) : Bool :=
  startsMark ['='] ts && !startsMark ['=', '>'] ts

/-- How tightly the operator at the front binds. -/
def levelAt (ts : List Token) : Level :=
  match operatorAt? ts with
  | some (_, level) => level
  | none =>
    if startsAssignment ts then .assign
    else if startsMark ['.', '.'] ts then .range
    else if startsWord "as" ts then .cast
    else .jump

/-! ## Trailers -/

/-- Whether a point follows that is not part of a range. -/
def startsPoint (ts : List Token) : Bool := startsMark ['.'] ts && !startsMark ['.', '.'] ts

/-- Takes expressions in parentheses. -/
def callArguments : Parser (List Expr) := inside .parenthesis (commaList (g.expression true))

/-- Takes a member behind a point, or a call of it, or the wait for a result. -/
def memberTrailer : Parser Expr := do
  if ← word? "await" then return .other .awaiting false
  else
    let name ← member
    let ts ← rest
    let turbofish := name.isSome && startsMark [':', ':'] ts
    if turbofish then
      drop 2
      let _ ← g.genericArguments
    if name.isSome && (turbofish || startsWith (Token.isGroup .parenthesis) ts) then
      let _ ← g.callArguments
      return .other .methodCall false
    else return .field name

/-- Takes what follows a point behind an expression. -/
def pointTrailer : Parser Expr := do
  drop 1
  match floatAt? (← rest) with
  | some (text, behind) =>
    if ← memberNumbers text behind then g.memberTrailer else return .field none
  | none => g.memberTrailer

/-- Takes the trailers behind an expression. -/
def trailers (e : Expr) : Parser Expr :=
  repeating (fun e => do
    let ts ← rest
    if startsWith (Token.isGroup .parenthesis) ts then
      return .again (.call e (← g.callArguments))
    else if startsPoint ts && !e.isRange then return .again (← g.pointTrailer)
    else if startsWith (Token.isGroup .bracket) ts then
      let _ ← inside .bracket (g.expression true)
      return .again (.other .index false)
    else if startsMark ['?'] ts && !e.isRange then
      drop 1
      return .again (.other .trying false)
    else return .done e) e

/-! ## Atoms -/

/-- Takes what stands in parentheses: an expression, or a tuple. -/
def parenthesized : Parser Expr := inside .parenthesis do
  if (← rest).isEmpty then return .other .tuple false
  else
    let first ← g.expression true
    if (← rest).isEmpty then return .paren first
    else
      mark ","
      let _ ← commaList (g.expression true)
      return .other .tuple false

/-- Takes what stands in square brackets: a list of items, or one item and how often it is
repeated. -/
def bracketed : Parser Expr := inside .bracket do
  if (← rest).isEmpty then return .other .array false
  else
    let _ ← g.expression true
    let ts ← rest
    if ts.isEmpty then return .other .array false
    else if startsMark [','] ts then
      drop 1
      let _ ← commaList (g.expression true)
      return .other .array false
    else if startsMark [';'] ts then
      drop 1
      let _ ← g.expression true
      return .other .repetition false
    else fail (.expected "`,` or `;`")

/-- Takes the fields of a structure. -/
def structFields : Parser Unit := inside .brace do
  repeating (fun _ => do
    if (← rest).isEmpty then return .done ()
    if ← mark? ".." then
      if !(← rest).isEmpty then
        let _ ← g.expression true
      return .done ()
    let _ ← g.attributes
    let name ← member
    if name.isNone || startsMark [':'] (← rest) then
      mark ":"
      let _ ← g.expression true
    if (← rest).isEmpty then return .done ()
    mark ","
    return .again ()) ()

/-- Takes an expression that begins with a path. -/
def named (struct : Bool) : Parser Expr := do
  let (qualified, rooted, t) ← g.anyPath true
  let ts ← rest
  if !qualified && t.plain && startsMark ['!'] ts && !startsMark ['!', '='] ts then
    drop 1
    let d ← anyGroup
    return .other .invocation (d = .brace)
  else if struct && startsWith (Token.isGroup .brace) ts then
    g.structFields
    return .other .struct true
  else return .path ⟨rooted, t.plain, t.segments.reverse⟩

/-- Takes the parameters and the body of a closure. -/
def closure (struct : Bool) : Parser Expr := do
  let _ ← g.binder?
  let _ ← word? "const"
  let _ ← word? "static"
  let _ ← word? "async"
  let _ ← word? "move"
  mark "|"
  repeating (fun _ => do
    if ← looking (startsMark ['|']) then return .done ()
    let _ ← g.attributes
    let _ ← g.pattern
    if ← mark? ":" then
      let _ ← g.type .loose
    if ← looking (startsMark ['|']) then return .done ()
    mark ","
    return .again ()) ()
  mark "|"
  if ← mark? "->" then
    let _ ← g.type .loose
    g.block
    return .other .closure true
  else
    let body ← g.expression struct
    return .other .closure body.endsWithBrace

/-- Takes a conditional with all its branches. -/
def conditional : Parser Expr :=
  repeating (fun _ => do
    word "if"
    let _ ← g.expression false
    g.block
    if ← word? "else" then
      let ts ← rest
      if startsWord "if" ts then return .again ()
      else if startsWith (Token.isGroup .brace) ts then
        g.block
        return .done (.other .condition true)
      else failChoice [.word "if", .group .brace]
    else return .done (.other .condition true)) ()

/-- Takes one arm of a selection. -/
def arm : Parser Unit := do
  let _ ← g.attributes
  let _ ← g.alternatives
  if ← word? "if" then
    let _ ← g.expression true
  mark "=>"
  let body ← g.statementExpression
  if !body.endsStatement && !(← rest).isEmpty then mark ","
  else
    let _ ← mark? ","

/-- Takes a selection with its arms. -/
def selection : Parser Expr := do
  word "match"
  let _ ← g.expression false
  inside .brace do
    g.innerAttributes
    repeating (fun _ => do
      if (← rest).isEmpty then return .done ()
      g.arm
      return .again ()) ()
  return .other .selection true

/-- Takes a loop with a condition. -/
def whileLoop : Parser Expr := do
  word "while"
  let _ ← g.expression false
  g.blockWithAttributes
  return .other .whileLoop true

/-- Takes a loop over items. -/
def forLoop : Parser Expr := do
  word "for"
  let _ ← g.alternatives
  word "in"
  let _ ← g.expression false
  g.blockWithAttributes
  return .other .forLoop true

/-- Takes a loop without a condition. -/
def endlessLoop : Parser Expr := do
  word "loop"
  g.blockWithAttributes
  return .other .loop true

/-- Takes a block that is introduced by a word. -/
def wordBlock (w : String) (kind : ExprKind) : Parser Expr := do
  word w
  g.blockWithAttributes
  return .other kind true

/-- Takes a block. -/
def bareBlock : Parser Expr := do
  g.blockWithAttributes
  return .other .block true

/-- Takes a loop or a block with a label. -/
def labelled : Parser Expr := do
  lifetime
  mark ":"
  let ts ← rest
  if startsWord "while" ts then g.whileLoop
  else if startsWord "for" ts then g.forLoop
  else if startsWord "loop" ts then g.endlessLoop
  else if startsWith (Token.isGroup .brace) ts then g.bareBlock
  else fail (.expected "loop or block expression")

/-- Whether an expression can begin here. -/
def startsExpression (ts : List Token) : Bool :=
  (startsWith Token.isAnyIdent ts && !startsWord "as" ts) || startsGroup ts || startsLiteral ts ||
    (startsMark ['!'] ts && !startsMark ['!', '='] ts) ||
    (startsMark ['-'] ts && !startsMark ['-', '='] ts && !startsMark ['-', '>'] ts) ||
    (startsMark ['*'] ts && !startsMark ['*', '='] ts) ||
    (startsMark ['|'] ts && !startsMark ['|', '='] ts) ||
    (startsMark ['&'] ts && !startsMark ['&', '='] ts) || startsMark ['.', '.'] ts ||
    (startsMark ['<'] ts && !startsMark ['<', '='] ts && !startsMark ['<', '<', '='] ts) ||
    startsMark [':', ':'] ts || startsWith Token.isLifetime ts || startsMark ['#'] ts

/-- Takes an expression of a given kind that begins with a word and may have an operand. -/
def jump (w : String) (kind : ExprKind) : Parser Expr := do
  word w
  if ← looking startsExpression then
    let operand ← g.expression true
    return .other kind operand.endsWithBrace
  else return .other kind false

/-- Takes a jump out of a loop. -/
def breaking (struct : Bool) : Parser Expr := do
  word "break"
  let ts ← rest
  if startsWith Token.isLifetime ts && startsMark [':'] ts.tail then
    let _ ← g.expression true
    failWith .bareLabel
  else
    let _ ← lifetime?
    let ts ← rest
    if startsExpression ts && (struct || !startsWith (Token.isGroup .brace) ts) then
      let operand ← g.expression true
      return .other .breaking operand.endsWithBrace
    else return .other .breaking false

/-- Takes a condition that binds names. -/
def letCondition (struct : Bool) : Parser Expr := do
  word "let"
  let _ ← g.alternatives
  mark "="
  let first ← g.unary struct
  let scrutinee ← g.climb first struct .compare
  return .other .letCondition scrutinee.endsWithBrace

/-- Whether a closure stands at the front. -/
def startsClosure (ts : List Token) : Bool :=
  let next := ts.tail
  startsMark ['|'] ts || startsWord "move" ts || (startsWord "for" ts && startsBinders next) ||
    (startsWord "const" ts && !startsWith (Token.isGroup .brace) next) || startsWord "static" ts ||
    (startsWord "async" ts && (startsMark ['|'] next || startsWord "move" next))

/-- Whether an asynchronous block stands at the front. -/
def startsAsyncBlock (ts : List Token) : Bool :=
  startsWord "async" ts &&
    (startsWith (Token.isGroup .brace) (ts.drop 1) ||
      (startsWord "move" (ts.drop 1) && startsWith (Token.isGroup .brace) (ts.drop 2)))

/-- Whether a path stands at the front. -/
def startsPath (ts : List Token) : Bool :=
  startsWith Token.isIdent ts || startsMark [':', ':'] ts || startsMark ['<'] ts ||
    startsPathWord ts ||
    (startsWord "try" ts && (startsMark ['!'] ts.tail || startsMark [':', ':'] ts.tail))

/-- Takes the end of a range behind its dots, if it has one, and returns the range. -/
def rangeBehind (closed struct : Bool) (operand : Parser Expr) : Parser Expr := do
  let ts ← rest
  let ends : List (List Char) :=
    [[','], [';'], ['?'], ['=', '>'], ['='], ['+'], ['/'], ['%'], ['^'], ['>'], ['<', '='],
     ['!', '='], ['-', '='], ['*', '='], ['&', '='], ['|', '='], ['<', '<', '=']]
  if !closed &&
      (ts.isEmpty || ends.any (startsMark · ts) || startsPoint ts ||
        (!struct && startsWith (Token.isGroup .brace) ts) || startsWord "as" ts) then
    return .other .range false
  else
    let right ← operand
    return .other .range right.endsWithBrace

/-- Takes the dots of a range in an expression, and returns whether its end belongs to it. -/
def dots : Parser Bool := do
  let ts ← rest
  if startsMark ['.', '.', '='] ts then
    drop 3
    return true
  else if startsMark ['.', '.', '.'] ts then failChoice [.mark "..="]
  else
    mark ".."
    return false

/-- Takes the loop, block, conditional or selection that a word at the front introduces. -/
def introduced? (ts : List Token) : Option (Parser Expr) :=
  if startsWord "if" ts then some g.conditional
  else if startsWord "while" ts then some g.whileLoop
  else if startsWord "for" ts then some g.forLoop
  else if startsWord "loop" ts then some g.endlessLoop
  else if startsWord "match" ts then some g.selection
  else none

/-- Takes an atom, where `operand` takes the right end of a range. -/
def atom (struct : Bool) (operand : Parser Expr) : Parser Expr := do
  let ts ← rest
  let next := ts.tail
  match literalAt? ts with
  | some (l, behind) =>
    continueAt behind
    return .literal l
  | none =>
    if startsAsyncBlock ts then
      drop 1
      let _ ← word? "move"
      g.block
      return .other .asyncBlock true
    else if startsWord "try" ts && startsWith (Token.isGroup .brace) next then
      drop 1
      g.block
      return .other .tryBlock true
    else if startsClosure ts then g.closure struct
    else if startsBuiltin ts then
      drop 1
      builtin
      return .other .verbatim false
    else if startsPath ts then g.named struct
    else if startsWith (Token.isGroup .parenthesis) ts then g.parenthesized
    else if startsWord "break" ts then g.breaking struct
    else if startsWord "continue" ts then
      drop 1
      let _ ← lifetime?
      return .other .continuing false
    else if startsWord "return" ts then g.jump "return" .returning
    else if startsWord "become" ts then
      drop 1
      let operand ← g.expression true
      return .other .verbatim operand.endsWithBrace
    else if startsWith (Token.isGroup .bracket) ts then g.bracketed
    else if startsWord "let" ts then g.letCondition struct
    else if startsWord "yield" ts then g.jump "yield" .yielding
    else if startsWord "unsafe" ts then g.wordBlock "unsafe" .uncheckedBlock
    else if startsWord "const" ts then g.wordBlock "const" .constBlock
    else if startsWith (Token.isGroup .brace) ts then g.bareBlock
    else if startsMark ['.', '.'] ts then
      let closed ← dots
      rangeBehind closed struct operand
    else if startsWord "_" ts then
      drop 1
      return .other .placeholder false
    else if startsWith Token.isLifetime ts then g.labelled
    else
      match g.introduced? ts with
      | some p => p
      | none => fail (.expected "an expression")

/-! ## Chains -/

/-- Takes the right operand of an operator, given a parser for operands without one: as far as
what follows binds more tightly. -/
def rightOperand (struct : Bool) (level : Level) (operand : Parser Expr) : Parser Expr := do
  let first ← operand
  repeating (fun e => do
    let ts ← rest
    let next := levelAt ts
    if next.rank > level.rank || (next = level && level = .assign) then
      let e ← g.climb e struct next
      if (← rest).length = ts.length then return .done e else return .again e
    else return .done e) first

/-- Takes an operand: an atom with operators in front and trailers behind it. -/
def unaryRule (struct : Bool) : Parser Expr := do
  let annotated ← g.attributes
  let ts ← rest
  if startsMark ['&'] ts then
    drop 1
    let raw := startsWord "raw" ts.tail &&
      (startsWord "mut" (ts.drop 2) || startsWord "const" (ts.drop 2))
    if raw then drop 2
    else
      let _ ← word? "mut"
    let operand ← g.unary struct
    return .other (if raw then .rawAddress else .reference) operand.endsWithBrace
  else if startsMark ['*'] ts || startsMark ['!'] ts || startsMark ['-'] ts then
    drop 1
    let operand ← g.unary struct
    return .other .unary operand.endsWithBrace
  else
    let e ← g.atom struct (g.rightOperand struct .range (g.unary struct))
    let e ← g.trailers e
    if annotated && e.isRange then failWith .attributedRange else return e

/-- What cannot follow a cast, if it does. -/
def afterCast? (ts : List Token) : Option String :=
  if startsPoint ts then
    let second := ts.drop 1
    let third := ts.drop 2
    if startsWord "await" second then some "`.await`"
    else if startsWith Token.isIdent second &&
        (startsWith (Token.isGroup .parenthesis) third || startsMark [':', ':'] third) then
      some "a method call"
    else some "a field access"
  else if startsMark ['?'] ts then some "`?`"
  else if startsWith (Token.isGroup .bracket) ts then some "indexing"
  else if startsWith (Token.isGroup .parenthesis) ts then some "a function call"
  else none

/-- Takes the operators behind an expression that bind at least as tightly as a given level, with
their right operands. -/
def climbRule (e : Expr) (struct : Bool) (base : Level) : Parser Expr :=
  repeating (fun e => do
    let ts ← rest
    let reached (level : Level) : Bool := base.rank ≤ level.rank
    if e.isRange then return .done e
    else
      match operatorAt? ts with
      | some (op, level) =>
        if !reached level then return .done e
        else if level = .compare && e.isComparison then fail .chainedComparison
        else
          drop op.length
          let right ← g.rightOperand struct level (g.unaryRule struct)
          return .again (.binary level right.endsWithBrace)
      | none =>
        if reached .assign && startsAssignment ts then
          drop 1
          let right ← g.rightOperand struct .assign (g.unaryRule struct)
          return .again (.other .assignment right.endsWithBrace)
        else if reached .range && startsMark ['.', '.'] ts then
          let closed ← dots
          let range ← rangeBehind closed struct (g.rightOperand struct .range (g.unaryRule struct))
          return .again range
        else if reached .cast && startsWord "as" ts then
          drop 1
          let target ← g.type .cast
          match afterCast? (← rest) with
          | some what => fail (.afterCast what)
          | none => return .again (.other .cast target.braced)
        else return .done e) e

/-- Takes an expression. -/
def expressionRule (struct : Bool) : Parser Expr := do
  let first ← g.unaryRule struct
  g.climbRule first struct .jump

end DataContract.Marker.Grammar
