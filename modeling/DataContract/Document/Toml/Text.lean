/-!
# Strings and comments of TOML

A string stands between double quotes, where escapes count, or between single quotes, where they do
not; three quotes on each side let it run over several lines.  A line ends with a line feed, which a
carriage return may precede; a string keeps the ends of its lines as they are written.  No other
control character than the tab may occur anywhere.

The functions take the characters from where they read, and return those behind what they have
read.
-/

namespace DataContract.Document.Toml

/-- Whether `c` may stand in a line: it is no control character but the tab. -/
def isPlain (c : Char) : Bool := c == '\t' || (0x20 ≤ c.toNat && c.toNat != 0x7F)

/-- Whether `c` is a space or a tab. -/
def isSpace (c : Char) : Bool := c == ' ' || c == '\t'

/-- The text without spaces and tabs at its start. -/
def skipSpace (cs : List Char) : List Char := cs.dropWhile isSpace

/-- What stands behind the end of a line. -/
def afterLineEnd? : List Char → Option (List Char)
  | '\n' :: rest => some rest
  | '\r' :: '\n' :: rest => some rest
  | _ => none

/-- The text without the comment at its start, if there is one. -/
def skipComment (cs : List Char) : List Char :=
  match cs with
  | '#' :: rest => rest.dropWhile isPlain
  | cs => cs

/-- The text without white space, comments and line ends at its start. -/
def skipLines : Nat → List Char → List Char
  | 0, cs => cs
  | n + 1, cs =>
    let cs := skipComment (skipSpace cs)
    match afterLineEnd? cs with
    | some rest => skipLines n rest
    | none => cs

/-- The text without white space and line ends at its start. -/
def skipBlank : Nat → List Char → List Char
  | 0, cs => cs
  | n + 1, cs =>
    let cs := skipSpace cs
    match afterLineEnd? cs with
    | some rest => skipBlank n rest
    | none => cs

/-! ## Escapes -/

/-- The value of a hexadecimal digit. -/
def hexValue? (c : Char) : Option Nat :=
  if '0' ≤ c && c ≤ '9' then some (c.toNat - '0'.toNat)
  else if 'a' ≤ c && c ≤ 'f' then some (c.toNat - 'a'.toNat + 10)
  else if 'A' ≤ c && c ≤ 'F' then some (c.toNat - 'A'.toNat + 10)
  else none

/-- The character whose code point is written with `n` hexadecimal digits, and what stands behind
them. -/
def codePoint? (n : Nat) (cs : List Char) : Option (Char × List Char) :=
  if cs.length < n then none
  else
    match (cs.take n).foldl (fun v c => do return 16 * (← v) + (← hexValue? c)) (some 0) with
    | some v =>
      if v < 0xD800 || (0xE000 ≤ v && v < 0x110000) then some (Char.ofNat v, cs.drop n) else none
    | none => none

/-- The character that an escape stands for, from behind its backslash, and what stands behind
it. -/
def escape? : List Char → Option (Char × List Char)
  | 'b' :: rest => some ('\x08', rest)
  | 't' :: rest => some ('\t', rest)
  | 'n' :: rest => some ('\n', rest)
  | 'f' :: rest => some ('\x0c', rest)
  | 'r' :: rest => some ('\r', rest)
  | 'e' :: rest => some ('\x1b', rest)
  | '"' :: rest => some ('"', rest)
  | '\\' :: rest => some ('\\', rest)
  | 'x' :: rest => codePoint? 2 rest
  | 'u' :: rest => codePoint? 4 rest
  | 'U' :: rest => codePoint? 8 rest
  | _ => none

/-- What stands behind white space that a backslash at the end of a line removes. -/
def continuation? (cs : List Char) : Option (List Char) :=
  (afterLineEnd? (skipSpace cs)).map fun rest => skipBlank (rest.length + 1) rest

/-! ## Strings -/

/-- Puts a character in front of what is read next. -/
def consText (c : Char) (next : Option (List Char × List Char)) :
    Option (List Char × List Char) :=
  next.map fun (text, rest) => (c :: text, rest)

/-- The text of a string on one line behind its opening quote. -/
def lineText? (quote : Char) (escapes : Bool) : Nat → List Char → Option (List Char × List Char)
  | 0, _ => none
  | n + 1, cs =>
    match cs with
    | [] => none
    | c :: rest =>
      if c == quote then some ([], rest)
      else if escapes && c == '\\' then
        match escape? rest with
        | some (e, rest) => consText e (lineText? quote escapes n rest)
        | none => none
      else if isPlain c then consText c (lineText? quote escapes n rest)
      else none

/-- The text of a string on several lines behind its opening quotes.  Up to two quotes may stand
directly in front of the closing ones. -/
def blockText? (quote : Char) (escapes : Bool) : Nat → List Char → Option (List Char × List Char)
  | 0, _ => none
  | n + 1, cs =>
    let quotes := min 5 (cs.takeWhile (· == quote)).length
    if 3 ≤ quotes then some (List.replicate (quotes - 3) quote, cs.drop quotes)
    else
      match cs with
      | [] => none
      | c :: rest =>
        if escapes && c == '\\' then
          match continuation? rest, escape? rest with
          | some rest, _ => blockText? quote escapes n rest
          | none, some (e, rest) => consText e (blockText? quote escapes n rest)
          | none, none => none
        else if isPlain c || (afterLineEnd? cs).isSome then
          consText c (blockText? quote escapes n rest)
        else none

/-- The text of a string on one line. -/
def lineString? (cs : List Char) : Option (String × List Char) :=
  let read :=
    match cs with
    | '"' :: rest => lineText? '"' true (cs.length + 1) rest
    | '\'' :: rest => lineText? '\'' false (cs.length + 1) rest
    | _ => none
  read.map fun (text, rest) => (String.ofList text, rest)

/-- The text of a string on several lines, without a line end directly behind its opening
quotes. -/
def blockString? (cs : List Char) : Option (String × List Char) :=
  let body (rest : List Char) : List Char := (afterLineEnd? rest).getD rest
  let read :=
    match cs with
    | '"' :: '"' :: '"' :: rest => blockText? '"' true (cs.length + 1) (body rest)
    | '\'' :: '\'' :: '\'' :: rest => blockText? '\'' false (cs.length + 1) (body rest)
    | _ => none
  read.map fun (text, rest) => (String.ofList text, rest)

/-- Whether three quotes stand at the front. -/
def startsBlock (cs : List Char) : Bool :=
  ['"', '"', '"'].isPrefixOf cs || ['\'', '\'', '\''].isPrefixOf cs

/-- The text of a string of either sort. -/
def string? (cs : List Char) : Option (String × List Char) :=
  if startsBlock cs then blockString? cs else lineString? cs

end DataContract.Document.Toml
