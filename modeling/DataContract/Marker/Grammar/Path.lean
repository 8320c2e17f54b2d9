import DataContract.Marker.Grammar.Basic

/-!
# Paths

A path is a list of names separated by `::`.  A name may have arguments in angle brackets; in an
expression these have to be introduced by `::`, since an angle bracket alone would compare.  A path
may also begin with a type in angle brackets.
-/

namespace DataContract.Marker.Grammar

open DataContract.Marker.Parser

/-- The arguments of a name in a path. -/
inductive SegmentArguments
  | none
  /-- Arguments in angle brackets, and whether there are any. -/
  | angled (any : Bool)
  /-- Arguments in parentheses, and whether the type behind them ends with a brace of its own. -/
  | functional (braced : Bool)
  deriving DecidableEq, Repr

/-- Whether parentheses may still follow the arguments. -/
def SegmentArguments.isEmpty : SegmentArguments → Bool
  | none => true
  | angled any => !any
  | functional _ => false

/-- Whether a path whose last name has these arguments ends with a brace of its own. -/
def SegmentArguments.braced : SegmentArguments → Bool
  | functional braced => braced
  | _ => false

/-- What has been read of a path: the arguments of its last segment, whether no segment has any, and
the segments, the last one first. -/
structure Trail where
  last : SegmentArguments
  plain : Bool
  segments : List String

namespace Trail

/-- Nothing has been read. -/
def start : Trail := ⟨.none, true, []⟩

/-- The trail with one more segment. -/
def add (t : Trail) (name : String) (arguments : SegmentArguments) : Trail :=
  ⟨arguments, t.plain && arguments = .none, name :: t.segments⟩

/-- The trail with other arguments for its last segment. -/
def withLast (t : Trail) (arguments : SegmentArguments) : Trail := ⟨arguments, false, t.segments⟩

end Trail

variable (g : Grammar)

/-- Whether an angle bracket stands at the front that can open arguments. -/
def startsArgumentList (ts : List Token) : Bool :=
  startsMark ['<'] ts && !startsMark ['<', '='] ts && !startsMark ['<', '<', '='] ts

/-- Takes one segment of a path, and returns its name and its arguments. -/
def segment (inExpression : Bool) : Parser (String × SegmentArguments) := do
  let ts ← rest
  if ["super", "self", "crate", "try"].any (startsWord · ts) then return (← anyIdent, .none)
  else
    let name ← if startsWord "Self" ts then anyIdent else ident
    let ts ← rest
    let introduced := startsMark [':', ':'] ts && startsMark ['<'] (ts.drop 2)
    if (!inExpression && startsArgumentList ts) || introduced then
      let _ ← mark? "::"
      return (name, .angled (← g.genericArguments))
    else return (name, .none)

/-- Takes further segments. -/
def moreSegments (inExpression : Bool) (t : Trail) : Parser Trail :=
  repeating (fun t => do
    let ts ← rest
    if startsMark [':', ':'] ts && !startsWith (Token.isGroup .parenthesis) (ts.drop 2) then
      drop 2
      let (name, arguments) ← g.segment inExpression
      return .again (t.add name arguments)
    else return .done t) t

/-- Takes a path that does not begin with a type, and returns whether it is rooted. -/
def pathTrail (inExpression : Bool) : Parser (Bool × Trail) := do
  let rooted ← mark? "::"
  let (name, arguments) ← g.segment inExpression
  let t ← g.moreSegments inExpression (Trail.start.add name arguments)
  return (rooted, t)

/-- Takes the segments behind a type in angle brackets. -/
def qualifiedTrail (inExpression : Bool) (t : Trail) : Parser Trail :=
  repeating (fun t => do
    let (name, arguments) ← g.segment inExpression
    let t := t.add name arguments
    if ← mark? "::" then return .again t else return .done t) t

/-- Takes a path, and returns whether it begins with a type, whether it is rooted, and its
segments. -/
def anyPath (inExpression : Bool) : Parser (Bool × Bool × Trail) := do
  if ← mark? "<" then
    let _ ← g.type .loose
    let t ←
      if ← word? "as" then
        let (_, t) ← g.pathTrail false
        pure t
      else pure .start
    mark ">"
    mark "::"
    let t ← g.qualifiedTrail inExpression t
    return (true, true, t)
  else
    let (rooted, t) ← g.pathTrail inExpression
    return (false, rooted, t)

/-! ## Arguments -/

/-- Takes an argument that is a constant: a literal, a name, or a block. -/
def constantArgument : Parser Unit := do
  let ts ← rest
  match literalAt? ts with
  | some (_, behind) => continueAt behind
  | none =>
    if startsWith Token.isIdent ts then drop 1
    else if startsWith (Token.isGroup .brace) ts then g.blockWithAttributes
    else failChoice []

/-- Whether a literal or a block stands at the front. -/
def startsConstant (ts : List Token) : Bool :=
  startsLiteral ts || startsWith (Token.isGroup .brace) ts

/-- Takes bounds separated by plus signs, up to where `ends` holds. -/
def boundsUntil (ends : List Token → Bool) : Parser Unit :=
  repeating (fun _ => do
    if ← looking ends then return .done ()
    let _ ← g.bound .parameter
    if ← mark? "+" then return .again () else return .done ()) ()

/-- Takes one argument in angle brackets. -/
def genericArgument : Parser Unit := do
  let ts ← rest
  if startsWith Token.isLifetime ts && !startsMark ['+'] ts.tail then drop 1
  else if startsConstant ts then g.constantArgument
  else
    let shape ← g.type .loose
    if shape.form = .name then
      if ← mark? "=" then
        if ← looking startsConstant then g.constantArgument
        else
          let _ ← g.type .loose
      else if ← mark? ":" then
        g.boundsUntil fun ts => startsMark [','] ts || startsMark ['>'] ts

/-- Takes items in angle brackets that are separated by commas, and returns whether there are
any. -/
def angled (item : Parser Unit) : Parser Bool := do
  mark "<"
  let any ← repeating (fun any => do
    if ← looking (startsMark ['>']) then return .done any
    item
    if ← looking (startsMark ['>']) then return .done true
    mark ","
    return .again true) false
  mark ">"
  return any

/-- Takes arguments in angle brackets. -/
def genericArgumentList : Parser Bool := angled g.genericArgument

end DataContract.Marker.Grammar
