import DataContract.Text.VisibleTable

/-!
# Quoted text

Messages and log fields show a text between double quotes, on one line and without characters that
a reader could not see.  The quote and the backslash are escaped, the line characters have names,
and a character that combines with its neighbour or has no glyph is given by its code point.
-/

namespace DataContract.Text

/-- The lower-case hexadecimal digits of a number, without leading zeros. -/
def hexDigits (n : Nat) : List Char := Nat.toDigits 16 n

/-- The escape that names a character by its code point. -/
def codeEscape (c : Char) : List Char := ['\\', 'u', '{'] ++ hexDigits c.toNat ++ ['}']

/-- What stands for `c` inside the quotes. -/
def quoteChar (c : Char) : List Char :=
  match c with
  | '\x00' => ['\\', '0']
  | '\t' => ['\\', 't']
  | '\n' => ['\\', 'n']
  | '\r' => ['\\', 'r']
  | '"' => ['\\', '"']
  | '\\' => ['\\', '\\']
  | _ =>
    if extendingSet.contains c || invisibleSet.contains c then codeEscape c else [c]

/-- The text between double quotes, escaped. -/
def quoted (s : String) : String :=
  String.ofList ('"' :: s.toList.flatMap quoteChar ++ ['"'])

end DataContract.Text
