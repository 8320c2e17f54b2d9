import DataContract.Marker.Grammar.Path

/-!
# Generic parameters

A declaration, a closure and the type of a function may introduce lifetimes, types and constants in
angle brackets, and a declaration may put conditions on them.
-/

namespace DataContract.Marker.Grammar

open DataContract.Marker.Parser

variable (g : Grammar)

/-! ## Parameters -/

/-- Takes lifetimes separated by plus signs, up to where `ends` holds. -/
def lifetimesUntil (ends : List Token → Bool) : Parser Unit :=
  repeating (fun _ => do
    if ← looking ends then return .done ()
    lifetime
    if ← mark? "+" then return .again () else return .done ()) ()

/-- Takes a lifetime parameter with its bounds. -/
def lifetimeParameter : Parser Unit := do
  lifetime
  if ← mark? ":" then
    lifetimesUntil fun ts => startsMark [','] ts || startsMark ['>'] ts

/-- Takes a type parameter with its bounds and its default. -/
def typeParameter : Parser Unit := do
  let _ ← ident
  if ← mark? ":" then
    g.boundsUntil fun ts => startsMark [','] ts || startsMark ['>'] ts || startsMark ['='] ts
  if ← mark? "=" then
    let _ ← g.type .loose

/-- Takes a constant parameter with its type and its default. -/
def constantParameter : Parser Unit := do
  word "const"
  let _ ← ident
  mark ":"
  let _ ← g.type .loose
  if ← mark? "=" then g.constantArgument

/-- Takes a parameter behind `for`. -/
def boundParameter : Parser Unit := do
  let _ ← g.attributes
  let ts ← rest
  if startsWith Token.isIdent ts then g.typeParameter
  else if startsWith Token.isLifetime ts then lifetimeParameter
  else if startsWord "const" ts then g.constantParameter
  else failChoice [.ident, .lifetime, .word "const"]

/-- Takes `for` and the parameters behind it. -/
def binder : Parser Unit := do
  word "for"
  let _ ← angled g.boundParameter

/-- Takes `for` and the parameters behind it, if it is there, and returns whether it is. -/
def binder? : Parser Bool := do
  if ← looking (startsWord "for") then
    g.binder
    return true
  else return false

/-- Takes a parameter of a declaration. -/
def genericParameter : Parser Unit := do
  let _ ← g.attributes
  let ts ← rest
  if startsWith Token.isLifetime ts then lifetimeParameter
  else if startsWith Token.isIdent ts then g.typeParameter
  else if startsWord "const" ts then g.constantParameter
  else if startsWord "_" ts then drop 1
  else failChoice [.lifetime, .ident, .word "const"]

/-- Takes the parameters of a declaration, if there are any, and returns whether there are angle
brackets. -/
def genericParameters : Parser Bool := do
  if ← looking (startsMark ['<']) then
    let _ ← angled g.genericParameter
    return true
  else return false

/-- Whether angle brackets follow that introduce names and not a type. -/
def startsBinders (ts : List Token) : Bool :=
  let second := ts.drop 1
  let third := ts.drop 2
  startsMark ['<'] ts &&
    (startsMark ['>'] second || startsMark ['#'] second || startsWord "const" second ||
      ((startsWith Token.isLifetime second || startsWith Token.isIdent second) &&
        (startsMark ['>'] third || startsMark [','] third || startsMark ['='] third ||
          (startsMark [':'] third && !startsMark [':', ':'] third))))

/-! ## Conditions -/

/-- Whether a condition ends here. -/
def endsCondition (ts : List Token) : Bool :=
  ts.isEmpty || startsWith (Token.isGroup .brace) ts || startsMark [','] ts ||
    startsMark [';'] ts || (startsMark [':'] ts && !startsMark [':', ':'] ts) ||
    startsMark ['='] ts

/-- Takes a condition on a lifetime or a type. -/
def condition : Parser Unit := do
  let ts ← rest
  if startsWith Token.isLifetime ts && startsMark [':'] ts.tail then
    drop 2
    lifetimesUntil fun ts => endsCondition ts || startsMark [':'] ts
  else
    let _ ← g.binder?
    let _ ← g.type .loose
    mark ":"
    g.boundsUntil endsCondition

/-- Takes the conditions of a declaration, if there are any, and returns whether there are. -/
def conditions : Parser Bool := do
  if ← word? "where" then
    if startsBinders (← rest) then fail .binderOfConditions
    repeating (fun _ => do
      if ← looking endsCondition then return .done ()
      g.condition
      if ← mark? "," then return .again () else return .done ()) ()
    return true
  else return false

end DataContract.Marker.Grammar
