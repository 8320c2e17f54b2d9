import DataContract.Document.Decoder
import DataContract.Number.Leading

/-!
# Reading JSON

`Json.read` reads a text as a document.  It always answers: where the text is no JSON, the document
that it has read so far is marked as broken there.  A text with more behind its document is read as
that document, and the reading is called incomplete.

Integers are those written without a point or an exponent that fit 64 bits, signed or unsigned.
Any other number is a fraction, and so is a zero with a minus sign.  A list or a table may stand
inside at most 126 others.

A reader of part of a text returns what it has read and the rest of the text, and no rest where the
text is broken.
-/

namespace DataContract.Document.Json

open DataContract.Number

/-- What has been read, and the rest of the text unless it is broken. -/
abbrev Outcome := Value × Option (List Char)

/-- The outcome where nothing can be read. -/
def broken : Outcome := (.flawed .broken, none)

/-- Whether `c` may stand between tokens. -/
def isSpace (c : Char) : Bool := c == ' ' || c == '\n' || c == '\t' || c == '\r'

/-- The text without the white space at its start. -/
def skipSpace (cs : List Char) : List Char := cs.dropWhile isSpace

/-! ## Strings -/

/-- One element of a string: a character, or half of a surrogate pair. -/
inductive Piece
  | whole (c : Char)
  | half (code : Nat)
  deriving DecidableEq, Repr

/-- The value of a hexadecimal digit. -/
def hexValue? (c : Char) : Option Nat :=
  if '0' ≤ c && c ≤ '9' then some (c.toNat - '0'.toNat)
  else if 'a' ≤ c && c ≤ 'f' then some (c.toNat - 'a'.toNat + 10)
  else if 'A' ≤ c && c ≤ 'F' then some (c.toNat - 'A'.toNat + 10)
  else none

/-- The value of hexadecimal digits, the first being the most significant. -/
def hexNumber? (cs : List Char) : Option Nat :=
  cs.foldl (fun n c => do return 16 * (← n) + (← hexValue? c)) (some 0)

/-- The element that an escape with a code point stands for. -/
def Piece.ofCode (n : Nat) : Piece :=
  if 0xD800 ≤ n && n < 0xE000 then .half n else .whole (Char.ofNat n)

/-- The character that an escape with a letter stands for. -/
def namedEscape? : Char → Option Char
  | '"' => some '"'
  | '\\' => some '\\'
  | '/' => some '/'
  | 'b' => some '\x08'
  | 'f' => some '\x0c'
  | 'n' => some '\n'
  | 'r' => some '\r'
  | 't' => some '\t'
  | _ => none

/-- The elements of a string up to its closing quote, and the rest of the text. -/
def pieces : List Char → Option (List Piece × List Char)
  | [] => none
  | '"' :: rest => some ([], rest)
  | '\\' :: 'u' :: a :: b :: c :: d :: rest =>
    match hexNumber? [a, b, c, d], pieces rest with
    | some n, some (more, rest) => some (Piece.ofCode n :: more, rest)
    | _, _ => none
  | '\\' :: e :: rest =>
    match namedEscape? e, pieces rest with
    | some c, some (more, rest) => some (.whole c :: more, rest)
    | _, _ => none
  | c :: rest =>
    if c.toNat < 0x20 then none
    else
      match pieces rest with
      | some (more, rest) => some (.whole c :: more, rest)
      | none => none

/-- The characters of a string, unless half of a pair stands alone. -/
def join : List Piece → Option (List Char)
  | [] => some []
  | .whole c :: rest => (join rest).map (c :: ·)
  | .half high :: .half low :: rest =>
    if high < 0xDC00 && 0xDC00 ≤ low then
      (join rest).map (Char.ofNat (0x10000 + (high - 0xD800) * 0x400 + (low - 0xDC00)) :: ·)
    else none
  | .half _ :: _ => none

/-- Reads a string behind its opening quote: its text, unless it is garbled, and the rest. -/
def readText (cs : List Char) : Option (Option String × List Char) :=
  (pieces cs).map fun (elements, rest) => ((join elements).map String.ofList, rest)

/-! ## Numbers -/

/-- The digits at the start of a text, and the rest. -/
def spanDigits (cs : List Char) : List Char × List Char := cs.span Char.isDigit

/-- The value of a digit. -/
def digitValue (c : Char) : Nat := c.toNat - '0'.toNat

/-- The number written by digits. -/
def digitsValue (ds : List Char) : Nat := ds.foldl (fun n c => 10 * n + digitValue c) 0

/-- Reads the digits before the point: a zero, or digits that do not begin with one. -/
def readWhole (cs : List Char) : Option (List Char × List Char) :=
  match cs with
  | '0' :: c :: rest => if c.isDigit then none else some (['0'], c :: rest)
  | '0' :: rest => some (['0'], rest)
  | cs =>
    match spanDigits cs with
    | ([], _) => none
    | (ds, rest) => some (ds, rest)

/-- Reads a point and the digits behind it, if a point follows. -/
def readFractional (cs : List Char) : Option (List Char × List Char) :=
  match cs with
  | '.' :: rest =>
    match spanDigits rest with
    | ([], _) => none
    | (ds, rest) => some (ds, rest)
  | cs => some ([], cs)

/-- Reads the digits of an exponent. -/
def readPower (negative : Bool) (cs : List Char) : Option (Option Int × List Char) :=
  match spanDigits cs with
  | ([], _) => none
  | (ds, rest) =>
    let n : Int := digitsValue ds
    some (some (if negative then -n else n), rest)

/-- Reads an exponent, if one follows. -/
def readExponent (cs : List Char) : Option (Option Int × List Char) :=
  match cs with
  | e :: rest =>
    if e == 'e' || e == 'E' then
      match rest with
      | '+' :: rest => readPower false rest
      | '-' :: rest => readPower true rest
      | rest => readPower false rest
    else some (none, cs)
  | [] => some (none, [])

/-- The number with the given sign, digits before and behind the point, and exponent.  A number
without a point and an exponent is an integer if it fits a word of 64 bits, which is signed if the
number is negative, and a fraction otherwise. -/
def number (negative : Bool) (whole fractional : List Char) (power : Option Int) : Value :=
  let n := digitsValue whole
  let integral := fractional.isEmpty && power.isNone
  if integral && !negative && n < 0x10000000000000000 then .integer n
  else if integral && negative && n != 0 && n ≤ 0x8000000000000000 then .integer (-n)
  else
    match ofLeading? negative (whole.map digitValue) (fractional.map digitValue)
      (power.getD 0) with
    | some b => .fraction (.finite b)
    | none => .flawed .garbled

/-- Reads a number behind its sign. -/
def readUnsigned (negative : Bool) (cs : List Char) : Outcome :=
  match readWhole cs with
  | none => broken
  | some (whole, rest) =>
    match readFractional rest with
    | none => broken
    | some (fractional, rest) =>
      match readExponent rest with
      | none => broken
      | some (power, rest) => (number negative whole fractional power, some rest)

/-- Reads a number. -/
def readNumber (cs : List Char) : Outcome :=
  match cs with
  | '-' :: rest => readUnsigned true rest
  | cs => readUnsigned false cs

/-! ## Lists and tables -/

/-- The number of lists and tables that may stand inside one another. -/
def depthLimit : Nat := 127

/-- What becomes of a list or table inside `depth` others. -/
def nested (depth : Nat) (v : Value) (rest : Option (List Char)) : Outcome :=
  if depth < depthLimit then (v, rest)
  else (.flawed (if rest.isNone then .broken else .garbled), rest)

/-- The entries read behind one of a given name, put together with it.  Behind a garbled name
nothing can be used. -/
def addEntry (name : Option String) (v : Value)
    (more : List (String × Value) × Option Flaw × Option (List Char)) :
    List (String × Value) × Option Flaw × Option (List Char) :=
  match name, more with
  | some name, (entries, flaw, rest) => ((name, v) :: entries, flaw, rest)
  | none, (_, _, some rest) => ([], some .garbled, some rest)
  | none, (_, _, none) => ([], some .broken, none)

mutual

/-- Reads a document inside `depth` lists and tables. -/
def readValue : Nat → Nat → List Char → Outcome
  | 0, _, _ => broken
  | fuel + 1, depth, cs =>
    match skipSpace cs with
    | 'n' :: 'u' :: 'l' :: 'l' :: rest => (.null, some rest)
    | 't' :: 'r' :: 'u' :: 'e' :: rest => (.boolean true, some rest)
    | 'f' :: 'a' :: 'l' :: 's' :: 'e' :: rest => (.boolean false, some rest)
    | '"' :: rest =>
      match readText rest with
      | some (some s, rest) => (.string s, some rest)
      | some (none, rest) => (.flawed .garbled, some rest)
      | none => broken
    | '[' :: rest =>
      match skipSpace rest with
      | ']' :: rest => nested depth (.array []) (some rest)
      | rest =>
        let (items, flaw, rest) := readItems fuel (depth + 1) rest
        nested depth (.list items flaw) rest
    | '{' :: rest =>
      match skipSpace rest with
      | '}' :: rest => nested depth (.object []) (some rest)
      | rest =>
        let (entries, flaw, rest) := readEntries fuel (depth + 1) rest
        nested depth (.table entries flaw) rest
    | cs => readNumber cs

/-- Reads one item of a list and those behind it, up to the closing bracket. -/
def readItems : Nat → Nat → List Char → List Value × Option Flaw × Option (List Char)
  | 0, _, _ => ([], some .broken, none)
  | fuel + 1, depth, cs =>
    match readValue fuel depth cs with
    | (v, none) => ([v], some .broken, none)
    | (v, some rest) =>
      match skipSpace rest with
      | ']' :: rest => ([v], none, some rest)
      | ',' :: rest =>
        let (items, flaw, rest) := readItems fuel depth rest
        (v :: items, flaw, rest)
      | _ => ([v], some .broken, none)

/-- Reads one entry of a table and those behind it, up to the closing brace. -/
def readEntries :
    Nat → Nat → List Char → List (String × Value) × Option Flaw × Option (List Char)
  | 0, _, _ => ([], some .broken, none)
  | fuel + 1, depth, cs =>
    match skipSpace cs with
    | '"' :: rest =>
      match readText rest with
      | none => ([], some .broken, none)
      | some (name, rest) =>
        match skipSpace rest with
        | ':' :: rest =>
          match readValue fuel depth rest with
          | (v, none) => addEntry name v ([], some .broken, none)
          | (v, some rest) =>
            match skipSpace rest with
            | '}' :: rest => addEntry name v ([], none, some rest)
            | ',' :: rest => addEntry name v (readEntries fuel depth rest)
            | _ => addEntry name v ([], some .broken, none)
        | _ => addEntry name (.flawed .broken) ([], some .broken, none)
    | _ => ([], some .broken, none)

end

/-- A document that has been read from a text, and whether nothing stands behind it. -/
structure Reading where
  value : Value
  complete : Bool

/-- Reads a text. -/
def read (s : String) : Reading :=
  let cs := s.toList
  match readValue (2 * cs.length + 1) 0 cs with
  | (v, some rest) => ⟨v, (skipSpace rest).isEmpty⟩
  | (v, none) => ⟨v, false⟩

/-- Decodes a document while it is read. -/
def Reading.decode {α : Type} (r : Reading) (d : Decoder α) : Except Mismatch α := do
  let a ← d .stream r.value
  if r.complete then .ok a else .error .malformed

/-- The document of a sound text, with the entries of its tables in the order of their names. -/
def parse? (s : String) : Option Value :=
  let r := read s
  if r.complete && r.value.sound then some r.value.sorted else none

end DataContract.Document.Json
