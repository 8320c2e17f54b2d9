import DataContract.Marker.Grammar.Declaration
import DataContract.Marker.Grammar.Expression

/-!
# The rules for statements

A block holds statements: bindings, declarations and expressions.  An expression that ends with a
block of its own is complete as a statement; any other needs a semicolon unless it comes last.
-/

namespace DataContract.Marker.Grammar

open DataContract.Marker.Parser

variable (g : Grammar)

/-- Takes an expression as it stands in a statement or in the arm of a selection: one that ends
with a block is not continued by an operator. -/
def statementExpressionRule : Parser Expr := do
  let _ ← g.attributes
  let ts ← rest
  let next := ts.tail
  let first ←
    if startsWord "for" ts && startsBinders next then g.unaryRule true
    else if startsWord "try" ts && startsWith (Token.isGroup .brace) next then
      drop 1
      g.block
      pure (.other .tryBlock true)
    else if startsWord "unsafe" ts then g.wordBlock "unsafe" .uncheckedBlock
    else if startsWord "const" ts && startsWith (Token.isGroup .brace) next then
      g.wordBlock "const" .constBlock
    else if startsWith (Token.isGroup .brace) ts then g.bareBlock
    else if startsWith Token.isLifetime ts then g.labelled
    else
      match g.introduced? ts with
      | some p => p
      | none => g.unaryRule true
  if !first.endsStatement then g.climbRule first true .jump
  else
    let ts ← rest
    if startsPoint ts || startsMark ['?'] ts then
      let e ← g.trailers first
      g.climbRule e true .jump
    else return first

/-- Takes a binding. -/
def localBinding : Parser Unit := do
  word "let"
  let _ ← g.pattern
  if ← mark? ":" then
    let _ ← g.type .loose
  if ← mark? "=" then
    let e ← g.expression true
    if !e.endsWithBrace && startsWord "else" (← rest) then
      drop 1
      g.block
  mark ";"

/-- Whether a declaration stands at the front. -/
def startsDeclaration (ts : List Token) : Bool :=
  let second := ts.drop 1
  let third := ts.drop 2
  let braceNext := startsWith (Token.isGroup .brace) second
  ["pub", "extern", "use", "fn", "mod", "type", "struct", "enum", "trait", "impl", "macro"].any
      (startsWord · ts) ||
    (startsWord "crate" ts && !startsMark [':', ':'] second) ||
    (startsWord "static" ts && (startsWord "mut" second || startsWith Token.isIdent second)) ||
    (startsWord "const" ts &&
      !(braceNext || startsWord "static" second || startsWord "move" second ||
        startsMark ['|'] second ||
        (startsWord "async" second &&
          !(["unsafe", "extern", "fn"].any (startsWord · third))))) ||
    (startsWord "unsafe" ts && !braceNext) ||
    (startsWord "async" ts && ["unsafe", "extern", "fn"].any (startsWord · second)) ||
    (startsWord "union" ts && startsWith Token.isIdent second) ||
    (startsWord "auto" ts && startsWord "trait" second) ||
    (startsWord "default" ts && (startsWord "unsafe" second || startsWord "impl" second))

/-- The path in front of an exclamation mark, if that is what stands at the front. -/
def invocationAt? (ts : List Token) : Option (List Token) :=
  match simplePath ⟨ts, none⟩ with
  | .ok (_, i) => if startsMark ['!'] i.tokens then some i.tokens.tail else none
  | .error _ => none

/-- Takes a statement, and returns whether it is complete without a semicolon. -/
def statement : Parser Bool := do
  let _ ← g.attributes
  let ts ← rest
  match invocationAt? ts with
  | some (.group .brace _ :: behind) =>
    if !startsPoint behind && !startsMark ['?'] behind then
      continueAt behind
      let _ ← mark? ";"
      return true
    else expressionStatement
  | some (.ident name raw :: _) =>
    if isName name raw || name == "try" then
      g.declarationBody
      return true
    else expressionStatement
  | _ =>
    if startsWord "let" ts then
      g.localBinding
      return true
    else if startsDeclaration ts then
      g.declarationBody
      return true
    else expressionStatement
where
  /-- Takes an expression and the semicolon behind it. -/
  expressionStatement : Parser Bool := do
    let e ← g.statementExpression
    if ← mark? ";" then return true
    else
      match e with
      | .other .invocation braced => return braced
      | e => return e.endsStatement

/-- Takes all statements of a block. -/
def statementsRule : Parser Unit :=
  repeating (fun _ => do
    let ts ← rest
    if ts.isEmpty then return .done ()
    else if startsMark [';'] ts then
      drop 1
      return .again ()
    else
      let complete ← g.statement
      if (← rest).isEmpty then return .done ()
      else if complete then return .again ()
      else fail .openStatement) ()

end DataContract.Marker.Grammar
