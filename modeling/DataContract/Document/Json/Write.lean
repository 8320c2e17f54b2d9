import DataContract.Document.Value

/-!
# Writing JSON

`Json.write` writes a document on one line, without any space between tokens.  In a string the
quote, the backslash and the control characters are escaped, and nothing else is.  A date or a
flawed part, which no document to be written has, is written as null.
-/

namespace DataContract.Document.Json

open DataContract.Number

/-- A lower-case hexadecimal digit. -/
def hexDigit (n : Nat) : Char := Nat.digitChar n

/-- What stands for `c` inside a string. -/
def escapeChar (c : Char) : List Char :=
  match c with
  | '"' => ['\\', '"']
  | '\\' => ['\\', '\\']
  | '\x08' => ['\\', 'b']
  | '\x0c' => ['\\', 'f']
  | '\n' => ['\\', 'n']
  | '\r' => ['\\', 'r']
  | '\t' => ['\\', 't']
  | c =>
    if c.toNat < 0x20 then ['\\', 'u', '0', '0', hexDigit (c.toNat / 16), hexDigit (c.toNat % 16)]
    else [c]

/-- A string between its quotes. -/
def writeText (s : String) : List Char :=
  '"' :: s.toList.flatMap escapeChar ++ ['"']

mutual

/-- The characters of a document. -/
def writeValue : Value → List Char
  | .null => "null".toList
  | .boolean true => "true".toList
  | .boolean false => "false".toList
  | .integer n => (toString n).toList
  | .fraction x => (x.text Binary.compact).toList
  | .string s => writeText s
  | .list items _ => '[' :: writeItems items ++ [']']
  | .table entries _ => '{' :: writeEntries entries ++ ['}']
  | .moment => "null".toList
  | .flawed _ => "null".toList

/-- The characters of the items of a list, separated by commas. -/
def writeItems : List Value → List Char
  | [] => []
  | [v] => writeValue v
  | v :: rest => writeValue v ++ ',' :: writeItems rest

/-- The characters of the entries of a table, separated by commas. -/
def writeEntries : List (String × Value) → List Char
  | [] => []
  | [(name, v)] => writeText name ++ ':' :: writeValue v
  | (name, v) :: rest => writeText name ++ ':' :: writeValue v ++ ',' :: writeEntries rest

end

/-- The text of a document. -/
def write (v : Value) : String := String.ofList (writeValue v)

end DataContract.Document.Json
