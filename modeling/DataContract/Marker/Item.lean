import DataContract.Marker.Grammar
import DataContract.Marker.Lexer

/-!
# Items of an argument list

An argument list is a list of items separated by commas.  An item is a literal, or a name followed
by nothing, by a group, or by an equals sign and a value.  A name may have several parts joined by
`::`, and keywords may be among them, but it does not begin with `::`.
-/

namespace DataContract.Marker

open DataContract.Marker.Parser

/-- What stands behind the name of an item. -/
inductive ItemBody
  | word
  | list (tokens : List Token)
  | value (e : Expr)
  deriving Repr

/-- An item of an argument list. -/
inductive Item
  | literal (l : Literal)
  | named (name : String) (body : ItemBody)
  deriving Repr

namespace Item

/-- Takes the parts of a name, the first of which is known to be there. -/
def nameParts : Parser (List String) :=
  repeating (fun done => do
    if ← looking (startsWith Token.isAnyIdent) then
      let part ← anyIdent
      if ← mark? "::" then return .again (part :: done) else return .done (part :: done).reverse
    else fail (.expected "path segment after `::`")) []

/-- Takes what stands behind a name. -/
def body (g : Grammar) : Parser ItemBody := do
  match ← rest with
  | .group _ tokens :: _ =>
    drop 1
    return .list tokens
  | ts => if startsMark ['='] ts then return .value (← g.value) else return .word

/-- Takes an item that begins with a name. -/
def namedItem (g : Grammar) : Parser Item := do
  let parts ← nameParts
  let body ← body g
  return .named (String.intercalate "::" parts) body

/-- Takes an item. -/
def item (g : Grammar) : Parser Item := do
  let ts ← rest
  match literalAt? ts with
  | some (.boolean b, behind) =>
    if startsMark ['='] behind then namedItem g
    else
      drop 1
      return .literal (.boolean b)
  | some (l, behind) =>
    continueAt behind
    return .literal l
  | none =>
    if startsWith Token.isAnyIdent ts then namedItem g
    else fail (.expected "identifier or literal")

/-- The items of a list of tokens. -/
def listOf (ts : List Token) : Except Fault (List Item) :=
  Parser.run (commaList (item (Grammar.forTokens ts))) ts

end Item

end DataContract.Marker
