import DataContract.Marker.Grammar.Statement

/-!
# The grammar of a given depth

The rules over the grammar of one depth make up the grammar of the next.  `Grammar.forTokens` takes
a depth above twice the number of tokens, which is never used up.
-/

namespace DataContract.Marker

namespace Grammar

/-- The rules over a grammar. -/
def step (g : Grammar) : Grammar where
  expression := g.expressionRule
  unary := g.unaryRule
  climb := g.climbRule
  statementExpression := g.statementExpressionRule
  statements := g.statementsRule
  type := g.typeRule
  genericArguments := g.genericArgumentList
  bound := g.boundRule
  pattern := g.patternRule
  importTree := g.importTreeRule
  fields := g.fieldsRule
  declaration := g.declarationRule

/-- The grammar of a given depth. -/
def ofDepth : Nat → Grammar
  | 0 => empty
  | n + 1 => (ofDepth n).step

/-- The grammar for a list of tokens. -/
def forTokens (ts : List Token) : Grammar := ofDepth (2 * sizeOfTokens ts + 2)

end Grammar

end DataContract.Marker
