import DataContract.Marker.Grammar.Basic
import DataContract.Marker.Lexer

/-!
# Members

Behind a point stands the name or the number of a member.  A number may not have a suffix and has
to fit a word of 32 bits.  Two numbers with a point between them look like a float, and are taken
apart again.
-/

namespace DataContract.Marker.Grammar

open DataContract.Marker.Parser

/-- Why a literal cannot be the number of a member, if it cannot. -/
def numberFault? : Literal → Option Cause
  | .integer value suffix =>
    if !suffix.isEmpty then some (.expected "unsuffixed integer")
    else if value < 0 then some (.fieldNumber "invalid digit found in string")
    else if value ≥ 0x100000000 then some (.fieldNumber "number too large to fit in target type")
    else none
  | _ => some (.expected "integer literal")

/-- Takes a member and returns its name, or none if it is a number. -/
def member : Parser (Option String) := do
  let ts ← rest
  match ts with
  | .ident name raw :: _ =>
    if isName name raw then
      drop 1
      return some (spelling name raw)
    else fail (.expected "identifier or integer")
  | _ =>
    match literalAt? ts with
    | some (.integer value suffix, behind) =>
      match numberFault? (.integer value suffix) with
      | some cause => failWith cause
      | none =>
        continueAt behind
        return none
    | _ => fail (.expected "identifier or integer")

/-- The float at the front, as it is spelled, and what stands behind it. -/
def floatAt? (ts : List Token) : Option (String × List Token) :=
  match literalAt? ts with
  | some (.float text, behind) => some (text, behind)
  | _ => none

/-- Why a text cannot be the number of a member, if it cannot. -/
def textFault? (cs : List Char) : Option Cause :=
  let (negative, cs) :=
    match cs with
    | '-' :: rest => (true, rest)
    | cs => (false, cs)
  match Lexer.literal? cs with
  | some (.integer value suffix, []) =>
    numberFault? (.integer (if negative then -1 else value) suffix)
  | _ => some (.expected "integer literal")

/-- The parts of a float between its points, and whether a point ends it. -/
def floatParts (text : String) : List (List Char) × Bool :=
  let cs := text.toList
  let pointed := cs.getLast? = some '.'
  (Text.splitWhere (· == '.') (if pointed then cs.dropLast else cs), pointed)

/-- Takes the numbers of two members that look like a float, and returns whether a point is left
behind them. -/
def memberNumbers (text : String) (behind : List Token) : Parser Bool := do
  continueAt behind
  let (parts, pointed) := floatParts text
  match parts.findSome? textFault? with
  | some cause => failWith cause
  | none => return pointed

end DataContract.Marker.Grammar
