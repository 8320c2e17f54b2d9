/-!
# Tokens of an argument list

The argument list of a marker consists of identifiers, single marks of punctuation, lifetimes,
literals, and groups of tokens between matching delimiters.

Two marks are *joint* if nothing stands between them; only joint marks can form one operator.  A
literal keeps what its meaning depends on: the text of a string, the value of an integer, and the
spelling of a float, since a float behind a point is really two field numbers.
-/

namespace DataContract.Marker

/-- A pair of delimiters. -/
inductive Delimiter
  | parenthesis
  | bracket
  | brace
  deriving DecidableEq, Repr

namespace Delimiter

/-- The character that opens a group. -/
def opening : Delimiter → Char
  | parenthesis => '('
  | bracket => '['
  | brace => '{'

/-- The character that closes a group. -/
def closing : Delimiter → Char
  | parenthesis => ')'
  | bracket => ']'
  | brace => '}'

/-- What messages call a group between the delimiters. -/
def name : Delimiter → String
  | parenthesis => "parentheses"
  | bracket => "square brackets"
  | brace => "curly braces"

/-- The delimiters that a character opens. -/
def ofOpening? (c : Char) : Option Delimiter :=
  [parenthesis, bracket, brace].find? (·.opening == c)

/-- The delimiters that a character closes. -/
def ofClosing? (c : Char) : Option Delimiter :=
  [parenthesis, bracket, brace].find? (·.closing == c)

end Delimiter

/-- A literal. -/
inductive Literal
  | string (text : String)
  | byteString
  | cString
  | byte
  | char
  /-- An integer with the value of its digits and its suffix. -/
  | integer (value : Int) (suffix : String)
  /-- A float as written. -/
  | float (text : String)
  | boolean (b : Bool)
  | unknown
  deriving DecidableEq, Repr

namespace Literal

/-- The name of a literal's type in messages. -/
def typeName : Literal → String
  | string _ => "string"
  | byteString => "byte string"
  | cString => "unknown"
  | byte => "byte"
  | char => "char"
  | integer _ _ => "int"
  | float _ => "float"
  | boolean _ => "bool"
  | unknown => "verbatim"

end Literal

/-- A token, or a group of tokens between delimiters.  A raw identifier is one written with `r#`
in front, which may be spelled like a keyword. -/
inductive Token
  | ident (name : String) (raw : Bool)
  | punct (mark : Char) (joint : Bool)
  | lifetime (name : String)
  | literal (l : Literal)
  | group (delimiter : Delimiter) (tokens : List Token)
  deriving Repr

instance : Inhabited Token := ⟨.punct ',' false⟩

mutual

/-- The number of tokens in a token, groups counted with what they hold. -/
def Token.size : Token → Nat
  | .group _ tokens => sizeOfTokens tokens + 1
  | _ => 1

/-- The number of tokens in a list, groups counted with what they hold. -/
def sizeOfTokens : List Token → Nat
  | [] => 0
  | t :: rest => t.size + sizeOfTokens rest

end

end DataContract.Marker
