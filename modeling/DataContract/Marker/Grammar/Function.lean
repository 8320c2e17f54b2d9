import DataContract.Marker.Grammar.Pattern
import DataContract.Marker.Grammar.Type

/-!
# Functions

A function is declared by its signature and a body.  The first parameter of a method may be a
receiver; dots stand for any number of further parameters and come last.
-/

namespace DataContract.Marker.Grammar

open DataContract.Marker.Parser

variable (g : Grammar)

/-- Takes the visibility of a declaration, and returns whether one is written. -/
def visibility : Parser Bool := do
  if !(← word? "pub") then return false
  match ← rest with
  | .group .parenthesis inner :: _ =>
    if ["crate", "self", "super"].any (startsWord · inner) then
      if inner.length = 1 then drop 1
    else if startsWord "in" inner then
      inside .parenthesis do
        drop 1
        let _ ← simplePath
  | _ => pure ()
  return true

/-- What stands behind the words in front of a function, except its convention. -/
def behindQualifiers (safe : Bool) (ts : List Token) : List Token :=
  let skip (w : String) (ts : List Token) : List Token := if startsWord w ts then ts.tail else ts
  let ts := skip "async" (skip "const" ts)
  if safe && startsWord "safe" ts then ts.tail else skip "unsafe" ts

/-- Whether the signature of a function stands at the front, in which the word `safe` may occur if
so told. -/
def startsSignature (safe : Bool) (ts : List Token) : Bool :=
  let ts := behindQualifiers safe ts
  if startsWord "extern" ts then
    match ts.tail with
    | .literal (.string _) :: behind => startsWord "fn" behind
    | behind => startsWord "fn" behind
  else startsWord "fn" ts

/-- A parameter of a function. -/
inductive Parameter
  | receiver
  | named
  | variadic
  deriving DecidableEq

/-- Takes a receiver. -/
def receiver : Parser Unit := do
  if ← mark? "&" then
    let _ ← lifetime?
    let _ ← word? "mut"
    word "self"
  else
    let _ ← word? "mut"
    word "self"
    if ← mark? ":" then
      let _ ← g.type .loose

/-- Takes a parameter.  One that does not begin with a receiver has a pattern in front of its type,
except that a type with arguments may stand by itself. -/
def parameter : Parser Parameter := fun i =>
  match g.receiver i with
  | .ok (_, after) => .ok (.receiver, after)
  | .error _ => named i
where
  /-- Takes a parameter that is no receiver. -/
  named : Parser Parameter := do
    let ts ← rest
    if startsWith Token.isIdent ts && startsMark ['<'] ts.tail then
      let _ ← g.type .loose
      return .named
    else
      let _ ← g.pattern
      mark ":"
      if ← mark? "..." then return .variadic
      else
        let _ ← g.type .loose
        return .named

/-- Takes the parameters of a function.  The truth values tell whether a parameter and whether a
receiver has been read. -/
def parameters : Parser Unit :=
  repeating (fun (found, received) => do
    if (← rest).isEmpty then return .done ()
    let _ ← g.attributes
    let p ← if ← mark? "..." then pure Parameter.variadic else g.parameter
    if p = .variadic then
      if !(← rest).isEmpty then mark ","
      return .done ()
    else if p = .receiver && received then failWith .secondReceiver
    else if p = .receiver && found then failWith .lateReceiver
    else if (← rest).isEmpty then return .done ()
    else
      mark ","
      return .again (true, received || p = .receiver)) (false, false)

/-- Takes the signature of a function, in which the word `safe` may occur if so told. -/
def signature (safe : Bool) : Parser Unit := do
  let _ ← word? "const"
  let _ ← word? "async"
  if !(← word? "unsafe") && safe then
    let _ ← word? "safe"
  convention?
  word "fn"
  let _ ← ident
  let _ ← g.genericParameters
  inside .parenthesis g.parameters
  let _ ← g.returnType .loose
  let _ ← g.conditions

end DataContract.Marker.Grammar
