import DataContract.Marker.Token

/-!
# Parsing tokens

A parser takes tokens from the front of a list and fails with the first fault that it meets.  The
content of a group is parsed by itself.  If tokens are left over there, parsing goes on behind the
group, and only when all has been parsed do they count as a fault.

A fault that is met where no token is left is reported as one at the end of the input.
-/

namespace DataContract.Marker

/-- What is wrong with an argument list. -/
inductive Cause
  | expected (what : String)
  /-- A token where nothing in particular is due. -/
  | unexpected
  /-- Two comparisons without parentheses. -/
  | chainedComparison
  /-- An attribute where a value is due. -/
  | attributeInValue
  /-- Tokens left over in a group. -/
  | leftOver (delimiter : Delimiter)
  /-- Something that cannot follow a cast. -/
  | afterCast (what : String)
  /-- A number that cannot name a field. -/
  | fieldNumber (text : String)
  /-- An attribute in front of a range. -/
  | attributedRange
  /-- A labelled loop that has to stand in parentheses. -/
  | bareLabel
  /-- A statement that lacks its semicolon. -/
  | openStatement
  /-- A form that another place would admit. -/
  | misplaced (what : String)
  /-- A bound that introduces names and is optional. -/
  | optionalBinder
  /-- The type of an object without a trait. -/
  | objectWithoutTrait
  /-- A hidden type without a trait. -/
  | hiddenWithoutTrait
  /-- A range that lacks an end among the items of a list pattern. -/
  | openRangeInList
  /-- A second receiver among the parameters of a function. -/
  | secondReceiver
  /-- A receiver behind other parameters. -/
  | lateReceiver
  /-- An exclusion that names no trait. -/
  | negativeInherent
  /-- Names that are introduced by conditions. -/
  | binderOfConditions
  deriving DecidableEq, Repr

namespace Cause

/-- The words for a cause. -/
def message : Cause → String
  | expected what => "expected " ++ what
  | unexpected => "unexpected token"
  | chainedComparison => "comparison operators cannot be chained"
  | attributeInValue => "unexpected attribute inside of attribute"
  | leftOver d => "unexpected token, expected `" ++ d.closing.toString ++ "`"
  | afterCast what => "casts cannot be followed by " ++ what
  | fieldNumber text => text
  | attributedRange => "attributes are not allowed on range expressions starting with `..`"
  | bareLabel => "parentheses required"
  | openStatement => "unexpected token, expected `;`"
  | misplaced what => what ++ " is not allowed here"
  | optionalBinder => "`for<...>` binder not allowed with `?` trait polarity modifier"
  | objectWithoutTrait => "at least one trait is required for an object type"
  | hiddenWithoutTrait => "at least one trait must be specified"
  | openRangeInList => "range pattern is not allowed unparenthesized inside slice pattern"
  | secondReceiver => "unexpected second method receiver"
  | lateReceiver => "unexpected method receiver"
  | negativeInherent => "inherent impls cannot be negative"
  | binderOfConditions =>
    "generic parameters on `where` clauses are reserved for future use"

end Cause

/-- What is wrong with an argument list, and whether it shows at the end of the input. -/
structure Fault where
  atEnd : Bool
  cause : Cause
  deriving DecidableEq, Repr

/-- The words for a fault. -/
def Fault.message (f : Fault) : String :=
  match f.atEnd, f.cause with
  | true, .unexpected => "unexpected end of input"
  | true, cause => "unexpected end of input, " ++ cause.message
  | false, cause => cause.message

/-- The tokens that are left, and the delimiters of the first group with tokens left over. -/
structure Input where
  tokens : List Token
  leftOver : Option Delimiter
  deriving Repr

/-- A parser for values of the type `α`. -/
abbrev Parser (α : Type) := StateT Input (Except Fault) α

/-! ## Looking ahead -/

/-- Whether marks stand at the front that form a given operator, or one that begins with it. -/
def startsMark : List Char → List Token → Bool
  | [], _ => true
  | [c], .punct d _ :: _ => c == d
  | c :: more, .punct d joint :: rest => c == d && joint && startsMark more rest
  | _, _ => false

/-- The words that are not identifiers. -/
def keywords : List String :=
  ["_", "abstract", "as", "async", "await", "become", "box", "break", "const", "continue",
   "crate", "do", "dyn", "else", "enum", "extern", "false", "final", "fn", "for", "if", "impl",
   "in", "let", "loop", "macro", "match", "mod", "move", "mut", "override", "priv", "pub", "ref",
   "return", "Self", "self", "static", "struct", "super", "trait", "true", "try", "type", "typeof",
   "unsafe", "unsized", "use", "virtual", "where", "while", "yield"]

/-- Whether an identifier token is an identifier and no keyword. -/
def isName (name : String) (raw : Bool) : Bool := raw || !keywords.contains name

/-- How an identifier token is spelled. -/
def spelling (name : String) (raw : Bool) : String := if raw then "r#" ++ name else name

namespace Token

/-- Whether a token is a given word. -/
def isWord (word : String) : Token → Bool
  | ident name raw => !raw && name == word
  | _ => false

/-- Whether a token is an identifier and no keyword. -/
def isIdent : Token → Bool
  | ident name raw => isName name raw
  | _ => false

/-- Whether a token is an identifier or a keyword. -/
def isAnyIdent : Token → Bool
  | ident _ _ => true
  | _ => false

/-- Whether a token is a lifetime. -/
def isLifetime : Token → Bool
  | lifetime _ => true
  | _ => false

/-- Whether a token is a group between given delimiters. -/
def isGroup (d : Delimiter) : Token → Bool
  | group e _ => d == e
  | _ => false

end Token

/-- Whether the first token has a property. -/
def startsWith (p : Token → Bool) (ts : List Token) : Bool := ts.head?.any p

/-- Whether a given word stands at the front. -/
def startsWord (word : String) : List Token → Bool := startsWith (Token.isWord word)

/-- The literal that a token stands for if it comes behind a minus sign. -/
def negated? : Token → Option Literal
  | .literal (.integer value suffix) => some (.integer (-value) suffix)
  | .literal (.float text) => some (.float ("-" ++ text))
  | _ => none

/-- The literal at the front, which may be a truth value or a negative number, and what stands
behind it. -/
def literalAt? : List Token → Option (Literal × List Token)
  | .literal l :: rest => some (l, rest)
  | .ident "true" false :: rest => some (.boolean true, rest)
  | .ident "false" false :: rest => some (.boolean false, rest)
  | .punct '-' _ :: t :: rest => (negated? t).map (·, rest)
  | _ => none

/-- Whether a literal stands at the front. -/
def startsLiteral (ts : List Token) : Bool := (literalAt? ts).isSome

/-! ## What may come next -/

/-- Something that may come next: what messages call it, and whether it is there. -/
structure Start where
  name : String
  isAt : List Token → Bool

namespace Start

/-- A keyword. -/
def word (w : String) : Start := ⟨"`" ++ w ++ "`", startsWord w⟩

/-- The marks of an operator. -/
def mark (op : String) : Start := ⟨"`" ++ op ++ "`", startsMark op.toList⟩

/-- An identifier. -/
def ident : Start := ⟨"identifier", startsWith Token.isIdent⟩

/-- A lifetime. -/
def lifetime : Start := ⟨"lifetime", startsWith Token.isLifetime⟩

/-- A literal. -/
def literal : Start := ⟨"literal", startsLiteral⟩

/-- A group between given delimiters. -/
def group (d : Delimiter) : Start := ⟨d.name, startsWith (Token.isGroup d)⟩

/-- The words for a choice. -/
def choice : List String → String
  | [] => ""
  | [a] => a
  | [a, b] => a ++ " or " ++ b
  | names => "one of: " ++ String.intercalate ", " names

end Start

/-! ## Taking tokens -/

namespace Parser

variable {α β σ : Type}

/-- Fails here. -/
def fail (cause : Cause) : Parser α := fun i => .error ⟨i.tokens.isEmpty, cause⟩

/-- Fails with a cause that is not about what comes next. -/
def failWith (cause : Cause) : Parser α := fun _ => .error ⟨false, cause⟩

/-- Fails because nothing comes next of what may.  What is there without its continuation is not
named. -/
def failChoice (starts : List Start) : Parser α := fun i =>
  match (starts.filter (!·.isAt i.tokens)).map (·.name) with
  | [] => fail .unexpected i
  | names => fail (.expected (Start.choice names)) i

/-- The tokens that are left. -/
def rest : Parser (List Token) := return (← get).tokens

/-- Whether the tokens that are left have a property. -/
def looking (p : List Token → Bool) : Parser Bool := return p (← get).tokens

/-- Passes over some tokens. -/
def drop (n : Nat) : Parser Unit := modify fun i => { i with tokens := i.tokens.drop n }

/-- Goes on with other tokens. -/
def continueAt (ts : List Token) : Parser Unit := modify fun i => { i with tokens := ts }

/-- Takes the marks of an operator.  That they are missing is no fault at the end of the input, even
if nothing is left. -/
def mark (op : String) : Parser Unit := do
  if ← looking (startsMark op.toList) then drop op.length
  else failWith (.expected ("`" ++ op ++ "`"))

/-- Takes the marks of an operator if they are there. -/
def mark? (op : String) : Parser Bool := do
  if ← looking (startsMark op.toList) then
    drop op.length
    return true
  else return false

/-- Takes a keyword. -/
def word (w : String) : Parser Unit := do
  if ← looking (startsWord w) then drop 1 else fail (.expected ("`" ++ w ++ "`"))

/-- Takes a keyword if it is there. -/
def word? (w : String) : Parser Bool := do
  if ← looking (startsWord w) then
    drop 1
    return true
  else return false

/-- Takes an identifier. -/
def ident : Parser String := do
  match ← rest with
  | .ident name raw :: _ =>
    if isName name raw then
      drop 1
      return spelling name raw
    else fail (.expected ("identifier, found keyword `" ++ name ++ "`"))
  | _ => fail (.expected "identifier")

/-- Takes an identifier or a keyword. -/
def anyIdent : Parser String := do
  match ← rest with
  | .ident name raw :: _ =>
    drop 1
    return spelling name raw
  | _ => fail (.expected "ident")

/-- Takes a lifetime. -/
def lifetime : Parser Unit := do
  if ← looking (startsWith Token.isLifetime) then drop 1 else fail (.expected "lifetime")

/-- Takes a lifetime if there is one. -/
def lifetime? : Parser Bool := do
  if ← looking (startsWith Token.isLifetime) then
    drop 1
    return true
  else return false

/-- Parses the content of a group. -/
def inside (d : Delimiter) (p : Parser α) : Parser α := fun i =>
  match i.tokens with
  | .group e inner :: behind =>
    if d = e then
      match p ⟨inner, i.leftOver⟩ with
      | .ok (a, after) =>
        let stray := if after.tokens.isEmpty then none else some d
        .ok (a, ⟨behind, after.leftOver <|> stray⟩)
      | .error f => .error f
    else .error ⟨false, .expected d.name⟩
  | ts => .error ⟨ts.isEmpty, .expected d.name⟩

/-! ## Repetition -/

/-- The result of one round: to go on, or to stop. -/
inductive Round (σ α : Type)
  | again (s : σ)
  | done (a : α)

/-- Repeats a step until it stops, at most `n` times. -/
def repeatFor (step : σ → Parser (Round σ α)) : Nat → σ → Parser α
  | 0, _ => fail (.expected "end of input")
  | n + 1, s => do
    match ← step s with
    | .again s => repeatFor step n s
    | .done a => return a

/-- Repeats a step until it stops.  Every round but the last takes at least one token, so there
are at most as many rounds as tokens, and one more. -/
def repeating (step : σ → Parser (Round σ α)) (s : σ) : Parser α := do
  repeatFor step ((← rest).length + 2) s

/-- Parses a list separated by commas up to the end of the tokens.  A comma may end it. -/
def commaList (p : Parser α) : Parser (List α) :=
  repeating (fun done => do
    if (← rest).isEmpty then return .done done.reverse
    let a ← p
    if (← rest).isEmpty then return .done (a :: done).reverse
    mark ","
    return .again (a :: done)) []

/-- Parses all tokens of a list. -/
def run (p : Parser α) (ts : List Token) : Except Fault α :=
  match p ⟨ts, none⟩ with
  | .ok (a, after) =>
    match after.leftOver with
    | some d => .error ⟨false, .leftOver d⟩
    | none => .ok a
  | .error f => .error f

end Parser

end DataContract.Marker
