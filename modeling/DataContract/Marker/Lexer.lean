import DataContract.Marker.Token
import DataContract.Text.Blank
import DataContract.Text.IdentifierTable

/-!
# Cutting an argument list into tokens

`tokenize?` reads the text of an argument list as tokens, and fails if it is none: if delimiters do
not match, a string or a comment does not end, an escape is wrong, or a character begins no token.

* White space and comments are passed over.  A documentation comment is not: it stands for an
  attribute `#[doc = "..."]`, or `#![doc = "..."]` if it documents what is around it.
* Of two ways to read a text as a token a literal comes first, then a mark, then an identifier.
* A carriage return may only stand before a line feed, in strings as in documentation.

The functions take the characters from where they read, and return those behind what they have
read.  Where a function takes a first argument that counts down, it is at least the length of the
text that is left.
-/

namespace DataContract.Marker.Lexer

open Text

/-! ## Characters -/

/-- Whether an identifier may begin with `c`. -/
def beginsIdent (c : Char) : Bool := c == '_' || identifierStartSet.contains c

/-- Whether an identifier may go on with `c`. -/
def continuesIdent (c : Char) : Bool :=
  identifierStartSet.contains c || identifierExtraSet.contains c

/-- Whether `c` is passed over between tokens: white space, and the two marks of direction. -/
def separates (c : Char) : Bool := isBlank c || c == '\u200e' || c == '\u200f'

/-- The marks of punctuation. -/
def marks : List Char := "~!@#$%^&*-=+|;:,<.>/?'".toList

/-- The value of a hexadecimal digit. -/
def hexDigit? (c : Char) : Option Nat :=
  if '0' ≤ c && c ≤ '9' then some (c.toNat - '0'.toNat)
  else if 'a' ≤ c && c ≤ 'f' then some (c.toNat - 'a'.toNat + 10)
  else if 'A' ≤ c && c ≤ 'F' then some (c.toNat - 'A'.toNat + 10)
  else none

/-! ## Comments -/

/-- What stands behind the rest of a line: its line feed and what follows. -/
def endOfLine : List Char → List Char
  | [] => []
  | '\n' :: rest => '\n' :: rest
  | '\r' :: '\n' :: rest => '\n' :: rest
  | _ :: rest => endOfLine rest

/-- The rest of a line without its line feed. -/
def restOfLine : List Char → List Char
  | [] => []
  | '\n' :: _ => []
  | '\r' :: '\n' :: _ => []
  | c :: rest => c :: restOfLine rest

/-- What stands behind a comment between `/*` and `*/`, in which `depth` such comments are open. -/
def endOfBlock : Nat → List Char → Option (List Char)
  | depth, '/' :: '*' :: rest => endOfBlock (depth + 1) rest
  | depth, '*' :: '/' :: rest => if depth ≤ 1 then some rest else endOfBlock (depth - 1) rest
  | depth, _ :: rest => endOfBlock depth rest
  | _, [] => none

/-- What stands behind a comment that does not document anything, if the text begins with one. -/
def afterComment? (cs : List Char) : Option (List Char) :=
  match cs with
  | '/' :: '/' :: '/' :: '/' :: rest => some (endOfLine rest)
  | '/' :: '/' :: '/' :: _ => none
  | '/' :: '/' :: '!' :: _ => none
  | '/' :: '/' :: rest => some (endOfLine rest)
  | '/' :: '*' :: '*' :: '/' :: rest => some rest
  | '/' :: '*' :: '*' :: '*' :: _ => endOfBlock 0 cs
  | '/' :: '*' :: '*' :: _ => none
  | '/' :: '*' :: '!' :: _ => none
  | '/' :: '*' :: _ => endOfBlock 0 cs
  | _ => none

/-- The text without white space and comments at its start. -/
def skipBlank : Nat → List Char → List Char
  | 0, cs => cs
  | n + 1, cs =>
    match afterComment? cs with
    | some rest => skipBlank n rest
    | none =>
      match cs with
      | c :: rest => if separates c then skipBlank n rest else cs
      | [] => []

/-- Whether every carriage return stands before a line feed. -/
def lineEndsPaired : List Char → Bool
  | '\r' :: '\n' :: rest => lineEndsPaired rest
  | '\r' :: _ => false
  | _ :: rest => lineEndsPaired rest
  | [] => true

/-- What has been read of a text when some of it is left. -/
def consumed (cs rest : List Char) : List Char := cs.take (cs.length - rest.length)

/-- A documentation comment at the start of a text: whether it documents what is around it, what
it says, and what stands behind it. -/
def documentation? (cs : List Char) : Option (Bool × List Char × List Char) :=
  match cs with
  | '/' :: '/' :: '!' :: body => some (true, restOfLine body, endOfLine body)
  | '/' :: '*' :: '!' :: _ =>
    (endOfBlock 0 cs).map fun rest => (true, (consumed cs rest).drop 3, rest)
  | '/' :: '/' :: '/' :: body =>
    if body.head? = some '/' then none
    else some (false, restOfLine body, endOfLine body)
  | '/' :: '*' :: '*' :: body =>
    if body.head? = some '*' then none
    else (endOfBlock 0 cs).map fun rest => (false, (consumed cs rest).drop 3, rest)
  | _ => none

/-- The attribute that a documentation comment stands for. -/
def documentationTokens (around : Bool) : List Token :=
  let body := [.ident "doc" false, .punct '=' false, .literal (.string "")]
  .punct '#' false :: (if around then [.punct '!' false] else []) ++ [.group .bracket body]

/-! ## Identifiers -/

/-- The characters of an identifier at the start of a text, and what stands behind it. -/
def spanIdent? (cs : List Char) : Option (List Char × List Char) :=
  match cs with
  | c :: _ => if beginsIdent c then some (cs.span continuesIdent) else none
  | [] => none

/-- Names that cannot be raw identifiers. -/
def neverRaw : List String := ["_", "super", "self", "Self", "crate"]

/-- An identifier, possibly a raw one, and what stands behind it. -/
def anyIdent? (cs : List Char) : Option (Token × List Char) :=
  match cs with
  | 'r' :: '#' :: rest =>
    match spanIdent? rest with
    | some (name, rest) =>
      let name := String.ofList name
      if neverRaw.contains name then none else some (.ident name true, rest)
    | none => none
  | cs => (spanIdent? cs).map fun (name, rest) => (.ident (String.ofList name) false, rest)

/-- The beginnings of literals that could be mistaken for identifiers. -/
def literalStarts : List (List Char) :=
  ["r\"", "r#\"", "r##", "b\"", "b'", "br\"", "br#", "c\"", "cr\"", "cr#"].map String.toList

/-- An identifier, where no literal begins. -/
def ident? (cs : List Char) : Option (Token × List Char) :=
  if literalStarts.any (·.isPrefixOf cs) then none else anyIdent? cs

/-- The suffix of a literal, empty if there is none, and what stands behind it. -/
def spanSuffix (cs : List Char) : List Char × List Char := (spanIdent? cs).getD ([], cs)

/-! ## Strings -/

/-- The sorts of string: text, bytes, and text that ends with a zero byte. -/
inductive StringSort
  | text
  | bytes
  | terminated
  deriving DecidableEq, Repr

/-- Whether a character may stand in a string as it is. -/
def StringSort.admits (sort : StringSort) (c : Char) : Bool :=
  match sort with
  | text => true
  | bytes => c.toNat < 128
  | terminated => c != '\x00'

/-- The character that an escape of two hexadecimal digits stands for. -/
def StringSort.hexEscape? (sort : StringSort) (a b : Char) : Option Char :=
  match hexDigit? a, hexDigit? b with
  | some x, some y =>
    match sort with
    | text => if x < 8 then some (Char.ofNat (16 * x + y)) else none
    | bytes => some (Char.ofNat (16 * x + y))
    | terminated => if x = 0 && y = 0 then none else some (Char.ofNat (16 * x + y))
  | _, _ => none

/-- The character that an escape of one letter stands for. -/
def StringSort.namedEscape? (sort : StringSort) (c : Char) : Option Char :=
  match c with
  | 'n' => some '\n'
  | 'r' => some '\r'
  | 't' => some '\t'
  | '\\' => some '\\'
  | '\'' => some '\''
  | '"' => some '"'
  | '0' => if sort = terminated then none else some '\x00'
  | _ => none

/-- The code point between braces, up to and without the closing one, of which `count` digits
with the value `value` have been read. -/
def codePoint? : List Char → Nat → Nat → Option (Char × List Char)
  | [], _, _ => none
  | '}' :: rest, count, value =>
    if count = 0 then none
    else if value < 0xD800 || (0xE000 ≤ value && value < 0x110000) then
      some (Char.ofNat value, rest)
    else none
  | '_' :: rest, count, value => if count = 0 then none else codePoint? rest count value
  | c :: rest, count, value =>
    match hexDigit? c with
    | some d => if count = 6 then none else codePoint? rest (count + 1) (16 * value + d)
    | none => none

/-- What stands behind white space that a backslash at the end of a line removes, where `returned`
tells whether a carriage return has just been read.  Something has to follow. -/
def continuation? : Bool → List Char → Option (List Char)
  | true, '\n' :: rest => continuation? false rest
  | true, _ => none
  | false, [] => none
  | false, '\r' :: rest => continuation? true rest
  | false, c :: rest =>
    if c == ' ' || c == '\t' || c == '\n' then continuation? false rest else some (c :: rest)

/-- Puts a character in front of what is read next. -/
def consText (c : Char) (next : Option (List Char × List Char)) :
    Option (List Char × List Char) :=
  next.map fun (text, rest) => (c :: text, rest)

/-- The text of a string behind its opening quote, and what stands behind the closing one. -/
def cooked? (sort : StringSort) : Nat → List Char → Option (List Char × List Char)
  | 0, _ => none
  | n + 1, cs =>
    match cs with
    | [] => none
    | '"' :: rest => some ([], rest)
    | '\r' :: '\n' :: rest => consText '\n' (cooked? sort n rest)
    | '\r' :: _ => none
    | '\\' :: 'x' :: a :: b :: rest =>
      match sort.hexEscape? a b with
      | some c => consText c (cooked? sort n rest)
      | none => none
    | '\\' :: 'u' :: '{' :: rest =>
      match codePoint? rest 0 0 with
      | some (c, rest) =>
        if sort = .bytes || (sort = .terminated && c == '\x00') then none
        else consText c (cooked? sort n rest)
      | none => none
    | '\\' :: c :: rest =>
      if c == '\n' || c == '\r' then
        match continuation? (c == '\r') rest with
        | some rest => cooked? sort n rest
        | none => none
      else
        match sort.namedEscape? c with
        | some e => consText e (cooked? sort n rest)
        | none => none
    | c :: rest => if sort.admits c then consText c (cooked? sort n rest) else none

/-- The number of hashes that open a raw string, and what stands behind its quote. -/
def rawOpening? (cs : List Char) : Option (Nat × List Char) :=
  match cs.span (· == '#') with
  | (hashes, '"' :: rest) => if hashes.length ≤ 255 then some (hashes.length, rest) else none
  | _ => none

/-- The text of a raw string that closes with a quote and the given hashes, and what stands behind
it. -/
def rawBody? (sort : StringSort) (hashes : List Char) : List Char → Option (List Char × List Char)
  | [] => none
  | '\r' :: '\n' :: rest => consText '\r' (consText '\n' (rawBody? sort hashes rest))
  | '\r' :: _ => none
  | c :: rest =>
    if c == '"' && hashes.isPrefixOf rest then some ([], rest.drop hashes.length)
    else if sort.admits c then consText c (rawBody? sort hashes rest)
    else none

/-- The text of a raw string behind its `r`, and what stands behind it. -/
def raw? (sort : StringSort) (cs : List Char) : Option (List Char × List Char) :=
  match rawOpening? cs with
  | some (hashes, rest) => rawBody? sort (List.replicate hashes '#') rest
  | none => none

/-- A string of any sort, from its first letter or quote. -/
def stringLiteral? (cs : List Char) : Option (Literal × List Char) :=
  let finish (make : String → Literal) (read : Option (List Char × List Char)) :
      Option (Literal × List Char) :=
    read.map fun (text, rest) => (make (String.ofList text), (spanSuffix rest).2)
  match cs with
  | '"' :: rest => finish .string (cooked? .text (rest.length + 1) rest)
  | 'r' :: rest => finish .string (raw? .text rest)
  | 'b' :: '"' :: rest => finish (fun _ => .byteString) (cooked? .bytes (rest.length + 1) rest)
  | 'b' :: 'r' :: rest => finish (fun _ => .byteString) (raw? .bytes rest)
  | 'c' :: '"' :: rest => finish (fun _ => .cString) (cooked? .terminated (rest.length + 1) rest)
  | 'c' :: 'r' :: rest => finish (fun _ => .cString) (raw? .terminated rest)
  | _ => none

/-! ## Single characters -/

/-- What stands behind a character in single quotes, from behind the opening one. -/
def quotedChar? (sort : StringSort) (cs : List Char) : Option (List Char) :=
  match cs with
  | '\\' :: 'x' :: a :: b :: rest => (sort.hexEscape? a b).map fun _ => rest
  | '\\' :: 'u' :: '{' :: rest =>
    if sort = .bytes then none else (codePoint? rest 0 0).map (·.2)
  | '\\' :: c :: rest => (sort.namedEscape? c).map fun _ => rest
  | c :: rest => if sort.admits c then some rest else none
  | [] => none

/-- What stands behind a closing single quote and a suffix. -/
def closeQuote? (cs : List Char) : Option (List Char) :=
  match cs with
  | '\'' :: rest => some (spanSuffix rest).2
  | _ => none

/-- A byte or a character in single quotes. -/
def charLiteral? (cs : List Char) : Option (Literal × List Char) :=
  match cs with
  | 'b' :: '\'' :: rest => ((quotedChar? .bytes rest).bind closeQuote?).map (.byte, ·)
  | '\'' :: rest => ((quotedChar? .text rest).bind closeQuote?).map (.char, ·)
  | _ => none

/-! ## Numbers -/

/-- Whether `c` is a decimal digit or an underscore. -/
def isDigitMark (c : Char) : Bool := c.isDigit || c == '_'

/-- The digits of an exponent behind its `e`, with a sign, and what stands behind them.  At least
one digit has to be among them. -/
def exponent? (cs : List Char) : Option (List Char) :=
  let rest := cs.dropWhile (· == '_')
  let rest :=
    match rest with
    | '+' :: rest => rest
    | '-' :: rest => rest
    | _ => rest
  let (digits, rest) := rest.span isDigitMark
  if digits.any Char.isDigit then some rest else none

/-- What stands behind the digits of a float. -/
def floatDigits? (cs : List Char) : Option (List Char) :=
  match cs with
  | first :: _ =>
    if !first.isDigit then none
    else
      match cs.dropWhile isDigitMark with
      | '.' :: rest =>
        let follows := rest.head?
        if follows = some '.' || follows.any beginsIdent then none
        else
          let rest := rest.dropWhile isDigitMark
          match rest with
          | e :: power =>
            if e == 'e' || e == 'E' then some ((exponent? power).getD rest) else some rest
          | [] => some []
      | e :: power => if e == 'e' || e == 'E' then exponent? power else none
      | [] => none
  | [] => none

/-- The suffix of a number and what stands behind it, where no further character may continue an
identifier. -/
def numberEnd? (cs : List Char) : Option (List Char × List Char) :=
  let (suffix, rest) := spanSuffix cs
  if rest.head?.any continuesIdent then none else some (suffix, rest)

/-- A float. -/
def float? (cs : List Char) : Option (Literal × List Char) :=
  match floatDigits? cs with
  | some rest =>
    (numberEnd? rest).map fun (_, rest) => (.float (String.ofList (consumed cs rest)), rest)
  | none => none

/-- The value of the digits of an integer in a given base, of which `value` has been read, and
what stands behind them; `begun` tells whether there has been a digit.  A decimal digit that is too
large is an error, and a letter that is too large ends the number. -/
def baseDigits? (base : Nat) : List Char → Bool → Nat → Option (Nat × List Char)
  | [], begun, value => if begun then some (value, []) else none
  | c :: rest, begun, value =>
    let ending := if begun then some (value, c :: rest) else none
    if c == '_' then
      if !begun && base == 10 then none else baseDigits? base rest begun value
    else
      match hexDigit? c with
      | some d =>
        if d < base then baseDigits? base rest true (base * value + d)
        else if c.isDigit then none
        else ending
      | none => ending

/-- An integer. -/
def integer? (cs : List Char) : Option (Literal × List Char) :=
  let read :=
    match cs with
    | '0' :: 'x' :: rest => baseDigits? 16 rest false 0
    | '0' :: 'o' :: rest => baseDigits? 8 rest false 0
    | '0' :: 'b' :: rest => baseDigits? 2 rest false 0
    | cs => baseDigits? 10 cs false 0
  match read with
  | some (value, rest) =>
    (numberEnd? rest).map fun (suffix, rest) => (.integer value (String.ofList suffix), rest)
  | none => none

/-! ## Tokens -/

/-- A literal. -/
def literal? (cs : List Char) : Option (Literal × List Char) :=
  stringLiteral? cs <|> charLiteral? cs <|> float? cs <|> integer? cs

/-- A mark of punctuation at the start of a text, where no comment begins. -/
def mark? (cs : List Char) : Option (Char × List Char) :=
  match cs with
  | '/' :: '/' :: _ => none
  | '/' :: '*' :: _ => none
  | c :: rest => if marks.contains c then some (c, rest) else none
  | [] => none

/-- A lifetime behind its quote.  A character that is closed by another quote is none. -/
def lifetime? (cs : List Char) : Option (Token × List Char) :=
  match anyIdent? cs with
  | some (_, '\'' :: _) => none
  | some (name, rest) =>
    if rest.head? = some '#' && !(['r', '#'].isPrefixOf cs) then none
    else
      match literal? cs, name with
      | none, .ident name _ => some (.lifetime name, rest)
      | _, _ => some (.punct '\'' true, cs)
  | none => none

/-- A mark, and whether it is joint with the one behind it. -/
def punct? (cs : List Char) : Option (Token × List Char) :=
  match mark? cs with
  | some ('\'', rest) => lifetime? rest
  | some (c, rest) => some (.punct c (mark? rest).isSome, rest)
  | none => none

/-- What stands for a literal that could not be written. -/
def unknownLiteral : List Char := "(/*ERROR*/)".toList

/-- A token that is no group. -/
def leaf? (cs : List Char) : Option (Token × List Char) :=
  ((literal? cs).map fun (l, rest) => (.literal l, rest)) <|> punct? cs <|> ident? cs <|>
    (if unknownLiteral.isPrefixOf cs then
      some (.literal .unknown, cs.drop unknownLiteral.length)
    else none)

/-- The delimiters that a group at the start of a text opens. -/
def openingOf? (cs : List Char) : Option Delimiter :=
  if unknownLiteral.isPrefixOf cs then none else cs.head?.bind Delimiter.ofOpening?

/-- The tokens up to the end of the text or a closing delimiter, and what is left. -/
def tokens? : Nat → List Char → Option (List Token × List Char)
  | 0, _ => none
  | n + 1, cs =>
    match skipBlank cs.length cs with
    | [] => some ([], [])
    | c :: tail =>
      let cs := c :: tail
      let more (before : List Token) (rest : List Char) : Option (List Token × List Char) :=
        (tokens? n rest).map fun (tokens, rest) => (before ++ tokens, rest)
      match documentation? cs with
      | some (around, body, rest) =>
        if lineEndsPaired body then more (documentationTokens around) rest else none
      | none =>
        match openingOf? cs with
        | some d =>
          match tokens? n tail with
          | some (inner, closing :: rest) =>
            if closing == d.closing then more [.group d inner] rest else none
          | _ => none
        | none =>
          if (Delimiter.ofClosing? c).isSome then some ([], cs)
          else
            match leaf? cs with
            | some (t, rest) => more [t] rest
            | none => none

/-- The byte order mark, which may begin a text. -/
def byteOrderMark : Char := '\ufeff'

/-- The tokens of a text. -/
def tokenize? (s : String) : Option (List Token) :=
  let cs := s.toList
  let cs := if cs.head? = some byteOrderMark then cs.tail else cs
  match tokens? (cs.length + 1) cs with
  | some (tokens, []) => some tokens
  | _ => none

end DataContract.Marker.Lexer
