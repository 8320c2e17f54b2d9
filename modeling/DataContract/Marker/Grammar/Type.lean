import DataContract.Marker.Grammar.Generics

/-!
# Types

Types occur behind `as`, in angle brackets, and in declarations and patterns.  They are recognized,
and what matters about them is returned as a `TypeShape`.
-/

namespace DataContract.Marker.Grammar

open DataContract.Marker.Parser

variable (g : Grammar)

/-! ## Functions -/

/-- Takes the type behind an arrow if there is one, and returns its shape. -/
def returnType (place : TypePlace) : Parser (Option TypeShape) := do
  if ← mark? "->" then return some (← g.type place) else return none

/-- Whether a result type, if there is one, ends with a brace of its own. -/
def resultBraced (result : Option TypeShape) : Bool := result.any (·.braced)

/-- Whether arguments in parentheses follow. -/
def startsArguments (ts : List Token) : Bool :=
  startsWith (Token.isGroup .parenthesis) ts ||
    (startsMark [':', ':'] ts && startsWith (Token.isGroup .parenthesis) (ts.drop 2))

/-- Takes arguments in parentheses and the type behind them, and returns the shape of that type. -/
def functionArguments : Parser (Option TypeShape) := do
  let _ ← mark? "::"
  let _ ← inside .parenthesis (commaList (g.type .loose))
  g.returnType .tight

/-- Takes a path that is a type, and returns whether it begins with a type, whether it is rooted,
and its segments.  Arguments in parentheses end a path, except that more may follow a result in
parentheses or the lack of one. -/
def typePath (place : TypePlace) : Parser (Bool × Bool × Trail) := do
  let (qualified, rooted, t) ← g.anyPath false
  repeating (fun (t : Trail) => do
    let ts ← rest
    if place ≠ .cast && t.last.isEmpty && startsArguments ts then
      let result ← g.functionArguments
      let t := t.withLast (.functional (resultBraced result))
      if result.all (·.form = .paren) then return .again (← g.moreSegments false t)
      else return .again t
    else return .done (qualified, rooted, t)) t

/-- Takes the convention of a foreign function, if there is one. -/
def convention? : Parser Unit := do
  if ← word? "extern" then
    match ← rest with
    | .literal (.string _) :: _ => drop 1
    | _ => return

/-- Whether a receiver stands at the front that may be changed. -/
def startsMutableReceiver (ts : List Token) : Bool :=
  startsWord "mut" ts && startsWord "self" ts.tail

/-- Takes a parameter of a function type, which may be a receiver if it is the first. -/
def functionParameter (first : Bool) : Parser Unit := do
  let ts ← rest
  let mutable := first && startsMutableReceiver ts
  let ts := if mutable then ts.tail else ts
  let receiver := first && startsWord "self" ts
  let named := (startsWith Token.isIdent ts || startsWord "_" ts || receiver) &&
    startsMark [':'] ts.tail && !startsMark [':', ':'] ts.tail
  let ts := if named then ts.drop 2 else ts
  if first && !(named && receiver) && startsMutableReceiver ts then continueAt (ts.drop 2)
  else if mutable && !named then continueAt ts.tail
  else
    continueAt ts
    let _ ← g.type .loose

/-- Takes the parameters of a function type.  Dots for any number of further parameters come
last. -/
def functionParameters : Parser Unit :=
  repeating (fun first => do
    if (← rest).isEmpty then return .done ()
    let _ ← g.attributes
    let ts ← rest
    let named := (startsWith Token.isIdent ts || startsWord "_" ts) && startsMark [':'] ts.tail
    let dots := if named then ts.drop 2 else ts
    if startsMark ['.', '.', '.'] dots then
      continueAt (dots.drop 3)
      let _ ← mark? ","
      return .done ()
    else
      g.functionParameter first
      if (← rest).isEmpty then return .done ()
      mark ","
      return .again false) true

/-- Takes a function type, and returns whether it ends with a brace of its own. -/
def functionType : Parser Bool := do
  let _ ← word? "unsafe"
  convention?
  word "fn"
  inside .parenthesis g.functionParameters
  return resultBraced (← g.returnType .tight)

/-! ## Bounds -/

/-- Takes a trait with its modifiers. -/
def traitBound (constant : Bool) : Parser BoundShape := do
  let early ← g.binder?
  let ts ← rest
  let conditionally := startsWith (Token.isGroup .bracket) ts
  let always := startsWord "const" ts
  if conditionally then
    inside .bracket (word "const")
    if !constant then failWith (.misplaced "`[const]`")
  else if always then
    drop 1
    if !constant then failWith (.misplaced "`const`")
  let optional ← mark? "?"
  let late ← if !early && optional then g.binder? else pure false
  let (_, t) ← g.pathTrail false
  let t ←
    if t.last.isEmpty && startsArguments (← rest) then
      let result ← g.functionArguments
      pure (t.withLast (.functional (resultBraced result)))
    else pure t
  if (early || late) && optional then failWith .optionalBinder
  else return ⟨true, t.last.braced⟩

/-- Whether a name stands at the front that a hidden type may capture. -/
def startsCaptured (ts : List Token) : Bool :=
  startsWith Token.isLifetime ts || startsWith Token.isIdent ts || startsWord "Self" ts

/-- Takes the names that a hidden type captures. -/
def captures : Parser Unit := do
  word "use"
  mark "<"
  repeating (fun _ => do
    let ts ← rest
    if startsCaptured ts then
      drop 1
      let ts ← rest
      if startsMark [','] ts then
        drop 1
        return .again ()
      else if startsMark ['>'] ts then return .done ()
      else failChoice [.mark ",", .mark ">"]
    else if startsMark ['>'] ts then return .done ()
    else failChoice [.lifetime, .ident, .mark ">"]) ()
  mark ">"

/-- Takes a bound: a lifetime, a list of captured names, or a trait. -/
def boundRule (place : BoundPlace) : Parser BoundShape := do
  let ts ← rest
  if startsWith Token.isLifetime ts then
    drop 1
    return ⟨false, false⟩
  else if startsWord "use" ts then
    captures
    if place.capture then return ⟨false, false⟩
    else failWith (.misplaced "`use<...>` precise capturing syntax")
  else if startsWith (Token.isGroup .parenthesis) ts then
    inside .parenthesis (g.traitBound place.constant)
  else g.traitBound place.constant

/-- Whether a bound follows a plus sign. -/
def startsBound (constant : Bool) (ts : List Token) : Bool :=
  startsWith Token.isAnyIdent ts || startsMark [':', ':'] ts || startsMark ['?'] ts ||
    startsWith Token.isLifetime ts || startsWith (Token.isGroup .parenthesis) ts ||
    (constant && (startsWith (Token.isGroup .bracket) ts || startsWord "const" ts))

/-- What matters about several bounds: whether a trait is among them, whether the last one ends with
a brace of its own, and whether it is the only one with no plus sign behind it. -/
structure BoundsShape where
  hasTrait : Bool
  braced : Bool
  single : Bool

/-- Takes bounds, of which there may be several only where a plus sign belongs to the type. -/
def bounds (place : BoundPlace) (plus : Bool) : Parser BoundsShape := do
  let first ← g.boundRule place
  repeating (fun (s : BoundsShape) => do
    if !plus then return .done s
    else if ← mark? "+" then
      let s := { s with single := false }
      if ← looking (startsBound place.constant) then
        let next ← g.boundRule place
        return .again { s with hasTrait := s.hasTrait || next.isTrait, braced := next.braced }
      else return .done s
    else return .done s) ⟨first.isTrait, first.braced, true⟩

/-- Takes the bounds of the type of an object. -/
def objectBounds (plus : Bool) : Parser BoundsShape := do
  let s ← g.bounds .object plus
  if s.hasTrait then return s else failWith .objectWithoutTrait

/-- Takes bounds behind the first one, each behind a plus sign, and returns the form of a type that
consists of them. -/
def addedBounds (first : BoundShape) : Parser TypeShape :=
  repeating (fun (shape : TypeShape) => do
    if ← mark? "+" then
      let next ← g.boundRule .object
      return .again ⟨.bounds false, next.braced⟩
    else return .done shape) ⟨.bounds true, first.braced⟩

/-! ## The rule -/

/-- The content of parentheses that are a type: nothing or several types, a single type, or bounds
that begin with a question mark. -/
inductive Parenthesized
  | tuple
  | single (shape : TypeShape)
  | lifetimes
  | optional (bound : BoundShape)

/-- Takes the content of parentheses that are a type. -/
def parenthesizedContent : Parser Parenthesized := do
  let ts ← rest
  if ts.isEmpty then return .tuple
  else if startsWith Token.isLifetime ts then
    let _ ← g.objectBounds true
    return .lifetimes
  else if startsMark ['?'] ts then
    let bound ← g.traitBound false
    return .optional bound
  else
    let first ← g.type .loose
    if ← mark? "," then
      let _ ← commaList (g.type .loose)
      return .tuple
    else return .single first

/-- Takes a type in parentheses, to which bounds may be added if it is one itself. -/
def parenthesizedType (place : TypePlace) : Parser TypeShape := do
  match ← inside .parenthesis g.parenthesizedContent with
  | .tuple => return .plain
  | .lifetimes => return ⟨.paren, false⟩
  | .optional bound => g.addedBounds bound
  | .single shape =>
    let extensible :=
      match shape.form with
      | .name | .path | .bounds true => true
      | _ => false
    if place = .loose && extensible && startsMark ['+'] (← rest) then
      g.addedBounds ⟨true, shape.braced⟩
    else return ⟨.paren, false⟩

/-- Takes bounds behind the first one, each behind a plus sign, and returns the form of a type that
consists of them.  A plus sign may end them. -/
def furtherBounds (first : BoundShape) : Parser TypeShape :=
  repeating (fun (shape : TypeShape) => do
    if ← mark? "+" then
      if ← looking (startsBound false) then
        let next ← g.boundRule .object
        return .again ⟨.bounds false, next.braced⟩
      else return .done ⟨.bounds false, shape.braced⟩
    else return .done shape) ⟨.bounds true, first.braced⟩

/-- Takes a type that begins with a path; `bound` tells whether it stands behind `for`. -/
def namedType (place : TypePlace) (bound : Bool) : Parser TypeShape := do
  let (qualified, rooted, t) ← g.typePath place
  let ts ← rest
  if qualified then return ⟨.other, t.last.braced⟩
  else if startsMark ['!'] ts && !startsMark ['!', '='] ts && t.plain then
    drop 1
    return ⟨.other, (← anyGroup) = .brace⟩
  else if bound || (place = .loose && startsMark ['+'] ts) then
    if place = .loose then g.furtherBounds ⟨true, t.last.braced⟩
    else return ⟨.bounds true, t.last.braced⟩
  else
    let single := !rooted && t.segments.length = 1
    match t.last with
    | .functional braced => return ⟨.path, braced⟩
    | _ => return ⟨if single then .name else .path, false⟩

/-- Takes a type in square brackets: a list of any length, or of a given one. -/
def listType : Parser Unit := inside .bracket do
  let _ ← g.type .loose
  if ← mark? ";" then
    let _ ← g.expression true

/-- Takes a pointer type. -/
def pointerType : Parser TypeShape := do
  mark "*"
  let ts ← rest
  if startsWord "const" ts || startsWord "mut" ts then
    drop 1
    let target ← g.type .tight
    return ⟨.other, target.braced⟩
  else failChoice [.word "const", .word "mut"]

/-- Takes a reference type. -/
def referenceType : Parser TypeShape := do
  mark "&"
  let _ ← lifetime?
  let _ ← word? "mut"
  let target ← g.type .tight
  return ⟨.other, target.braced⟩

/-- Takes the type of an object behind `dyn`. -/
def objectType (place : TypePlace) : Parser TypeShape := do
  word "dyn"
  let _ ← mark? "*"
  let s ← g.objectBounds (place = .loose)
  return ⟨.other, s.braced⟩

/-- Takes a hidden type. -/
def hiddenType (place : TypePlace) : Parser TypeShape := do
  word "impl"
  let s ← g.bounds .hidden (place = .loose)
  if s.hasTrait then return ⟨.other, s.braced⟩ else failWith .hiddenWithoutTrait

/-- What a type can begin with. -/
def typeStarts : List Start :=
  [.word "for", .group .parenthesis, .word "fn", .word "unsafe", .word "extern", .ident, .mark "::",
   .mark "<", .word "dyn", .group .bracket, .mark "*", .mark "&", .mark "!", .word "impl",
   .word "_", .lifetime]

/-- What a type behind `for` can begin with. -/
def boundTypeStarts : List Start :=
  [.ident, .word "fn", .word "unsafe", .word "extern", .word "super", .word "self", .word "Self",
   .word "crate"]

/-- Takes a type. -/
def typeRule (place : TypePlace) : Parser TypeShape := do
  let bound ← g.binder?
  let ts ← rest
  if bound && !boundTypeStarts.any (·.isAt ts) then failChoice boundTypeStarts
  else if startsWith (Token.isGroup .parenthesis) ts then g.parenthesizedType place
  else if ["fn", "unsafe", "extern"].any (startsWord · ts) then return ⟨.other, ← g.functionType⟩
  else if startsBuiltin ts then
    drop 1
    builtin
    return .plain
  else if startsWith Token.isIdent ts || startsPathWord ts || startsMark [':', ':'] ts ||
      startsMark ['<'] ts then
    g.namedType place bound
  else if startsWord "dyn" ts then g.objectType place
  else if startsWith (Token.isGroup .bracket) ts then
    g.listType
    return .plain
  else if startsMark ['*'] ts then g.pointerType
  else if startsMark ['&'] ts then g.referenceType
  else if startsMark ['!'] ts then
    drop 1
    return .plain
  else if startsWord "impl" ts then g.hiddenType place
  else if startsWord "_" ts then
    drop 1
    return .plain
  else if startsWith Token.isLifetime ts then
    let s ← g.objectBounds true
    return ⟨.bounds s.single, s.braced⟩
  else failChoice typeStarts

end DataContract.Marker.Grammar
