import DataContract.Marker.Grammar.Member
import DataContract.Marker.Grammar.Path

/-!
# Patterns

Patterns occur behind `let` and `for`, in the arms of a selection, and as parameters.  They are only
recognized, except that a list pattern does not admit a range that lacks an end.  So the rules
return whether a pattern is one.
-/

namespace DataContract.Marker.Grammar

open DataContract.Marker.Parser

variable (g : Grammar)

/-- Whether a bar follows that separates alternatives. -/
def startsAlternative (ts : List Token) : Bool :=
  startsMark ['|'] ts && !startsMark ['|', '|'] ts && !startsMark ['|', '='] ts

/-- Takes alternatives separated by bars, of which the first may have a bar in front, and returns
whether they are a single range that lacks an end. -/
def alternatives : Parser Bool := do
  let led ← mark? "|"
  let openRange ← g.pattern
  repeating (fun single => do
    if ← looking startsAlternative then
      drop 1
      let _ ← g.pattern
      return .again false
    else return .done (single && openRange)) (!led)

/-! ## Ranges -/

/-- Takes the dots of a range, and returns whether its end belongs to it. -/
def rangeDots : Parser Bool := do
  let ts ← rest
  if startsMark ['.', '.', '='] ts || startsMark ['.', '.', '.'] ts then
    drop 3
    return true
  else
    mark ".."
    return false

/-- What an end of a range in a pattern can begin with. -/
def rangeEndStarts : List Start :=
  [.literal, .ident, .mark "::", .mark "<", .word "self", .word "Self", .word "super",
   .word "crate", .word "const"]

/-- Takes an end of a range in a pattern, and returns whether there is one. -/
def rangeEnd : Parser Bool := do
  let ts ← rest
  if ts.isEmpty || startsMark ['|'] ts || startsMark ['='] ts ||
      (startsMark [':'] ts && !startsMark [':', ':'] ts) || startsMark [','] ts ||
      startsMark [';'] ts || startsWord "if" ts then
    return false
  else
    match literalAt? ts with
    | some (_, behind) =>
      continueAt behind
      return true
    | none =>
      if startsWith Token.isIdent ts || startsPathWord ts || startsMark [':', ':'] ts ||
          startsMark ['<'] ts then
        let _ ← g.anyPath true
        return true
      else if startsWord "const" ts then
        drop 1
        g.blockWithAttributes
        return true
      else failChoice rangeEndStarts

/-- Takes a range from behind its first end, and returns whether it lacks the other. -/
def rangeFrom : Parser Bool := do
  let closed ← rangeDots
  let found ← g.rangeEnd
  if closed && !found then fail (.expected "range upper bound") else return !found

/-- Takes a range without a first end, or two dots that stand for the rest of a pattern, and
returns whether it is a range. -/
def rangeTo : Parser Bool := do
  let closed ← rangeDots
  let found ← g.rangeEnd
  if closed && !found then fail (.expected "range upper bound") else return found

/-! ## The rule -/

/-- Takes a field of a structure pattern. -/
def fieldPattern : Parser Unit := do
  let boxed ← word? "box"
  let byRef ← word? "ref"
  let mutable ← word? "mut"
  if boxed || byRef || mutable then
    let _ ← ident
  else
    let named ← member
    if named.isNone || startsMark [':'] (← rest) then
      mark ":"
      let _ ← g.alternatives

/-- Takes the fields of a structure pattern. -/
def structPattern : Parser Unit := inside .brace do
  repeating (fun _ => do
    if (← rest).isEmpty then return .done ()
    let _ ← g.attributes
    if ← mark? ".." then return .done ()
    g.fieldPattern
    if (← rest).isEmpty then return .done ()
    mark ","
    return .again ()) ()

/-- Takes a pattern that begins with a path. -/
def pathPattern : Parser Bool := do
  let (qualified, _, t) ← g.anyPath true
  let ts ← rest
  if !qualified && t.plain && startsMark ['!'] ts && !startsMark ['!', '='] ts then
    drop 1
    let _ ← anyGroup
    return false
  else if startsWith (Token.isGroup .brace) ts then
    g.structPattern
    return false
  else if startsWith (Token.isGroup .parenthesis) ts then
    let _ ← inside .parenthesis (commaList g.alternatives)
    return false
  else if startsMark ['.', '.'] ts then g.rangeFrom
  else return false

/-- Takes a pattern that binds a name. -/
def namePattern : Parser Unit := do
  let _ ← word? "ref"
  let _ ← word? "mut"
  if !(← word? "self") then
    let _ ← ident
  if ← mark? "@" then
    let _ ← g.pattern

/-- Takes an item of a list pattern. -/
def listItem : Parser Unit := do
  if ← g.alternatives then failWith .openRangeInList

/-- What a pattern can begin with. -/
def patternStarts : List Start :=
  [.ident, .mark "::", .mark "<", .word "_", .literal, .word "const", .word "ref", .word "mut",
   .mark "&", .group .parenthesis, .group .bracket, .mark "..", .word "const"]

/-- Whether a path stands at the front that is no single name. -/
def startsPathPattern (ts : List Token) : Bool :=
  let next := ts.tail
  let continued :=
    startsMark [':', ':'] next || startsMark ['!'] next || startsWith (Token.isGroup .brace) next ||
      startsWith (Token.isGroup .parenthesis) next || startsMark ['.', '.'] next
  (startsWith Token.isIdent ts && continued) ||
    (startsWord "self" ts && startsMark [':', ':'] next) || startsMark [':', ':'] ts ||
    startsMark ['<'] ts || ["Self", "super", "crate"].any (startsWord · ts)

/-- Takes a pattern without alternatives. -/
def patternRule : Parser Bool := do
  let ts ← rest
  if startsPathPattern ts then g.pathPattern
  else if startsWord "_" ts then
    drop 1
    return false
  else if startsWord "box" ts then
    drop 1
    let _ ← g.pattern
    return false
  else if startsMark ['-'] ts || startsLiteral ts || startsWord "const" ts then
    let _ ← g.rangeEnd
    if ← looking (startsMark ['.', '.']) then g.rangeFrom else return false
  else if startsWord "ref" ts || startsWord "mut" ts || startsWord "self" ts ||
      startsWith Token.isIdent ts then
    g.namePattern
    return false
  else if startsMark ['&'] ts then
    drop 1
    let _ ← word? "mut"
    let _ ← g.pattern
    return false
  else if startsWith (Token.isGroup .parenthesis) ts then
    let _ ← inside .parenthesis (commaList g.alternatives)
    return false
  else if startsWith (Token.isGroup .bracket) ts then
    let _ ← inside .bracket (commaList g.listItem)
    return false
  else if startsMark ['.', '.'] ts && !startsMark ['.', '.', '.'] ts then g.rangeTo
  else failChoice patternStarts

end DataContract.Marker.Grammar
