import DataContract.Document.Value

/-!
# Numbers, dates and truth values of TOML

Everything that is no string, list or table is written as one word.  Integers have up to 64 bits
with a sign, and single underscores may separate their digits.  Dates are checked against the
calendar, but only that a word is a date or a time is kept of it.
-/

namespace DataContract.Document.Toml

open DataContract.Number

/-! ## Digits -/

/-- The value of a digit. -/
def digitValue (c : Char) : Nat :=
  if c.isDigit then c.toNat - '0'.toNat
  else if 'a' ≤ c then c.toNat - 'a'.toNat + 10
  else c.toNat - 'A'.toNat + 10

/-- The value of digits in a given base. -/
def digitsValue (base : Nat) (ds : List Char) : Nat :=
  ds.foldl (fun n c => base * n + digitValue c) 0

/-- The digits of a word in which single underscores separate digits, if it is one. -/
def separated? (isDigit : Char → Bool) : List Char → Option (List Char)
  | [] => none
  | [c] => if isDigit c then some [c] else none
  | c :: '_' :: rest => if isDigit c then (separated? isDigit rest).map (c :: ·) else none
  | c :: rest => if isDigit c then (separated? isDigit rest).map (c :: ·) else none

/-- The digits of a decimal integer, which has no leading zero. -/
def wholeDigits? (cs : List Char) : Option (List Char) :=
  match separated? Char.isDigit cs with
  | some ('0' :: _ :: _) => none
  | ds => ds

/-- A word without its sign, and whether that is a minus. -/
def splitSign (cs : List Char) : Bool × List Char :=
  match cs with
  | '-' :: rest => (true, rest)
  | '+' :: rest => (false, rest)
  | cs => (false, cs)

/-! ## Integers -/

/-- An integer of 64 bits with the given sign and magnitude. -/
def word? (negative : Bool) (n : Nat) : Option Value :=
  let value : Int := if negative then -n else n
  if -0x8000000000000000 ≤ value && value < 0x8000000000000000 then some (.integer value) else none

/-- Whether `c` is a hexadecimal digit. -/
def isHexDigit (c : Char) : Bool :=
  c.isDigit || ('a' ≤ c && c ≤ 'f') || ('A' ≤ c && c ≤ 'F')

/-- Whether `c` is an octal digit. -/
def isOctalDigit (c : Char) : Bool := '0' ≤ c && c ≤ '7'

/-- Whether `c` is a binary digit. -/
def isBinaryDigit (c : Char) : Bool := c == '0' || c == '1'

/-- The integer that a word is. -/
def integer? (cs : List Char) : Option Value :=
  match cs with
  | '0' :: 'x' :: rest =>
    (separated? isHexDigit rest).bind fun ds => word? false (digitsValue 16 ds)
  | '0' :: 'o' :: rest =>
    (separated? isOctalDigit rest).bind fun ds => word? false (digitsValue 8 ds)
  | '0' :: 'b' :: rest =>
    (separated? isBinaryDigit rest).bind fun ds => word? false (digitsValue 2 ds)
  | cs =>
    let (negative, rest) := splitSign cs
    (wholeDigits? rest).bind fun ds => word? negative (digitsValue 10 ds)

/-! ## Floats -/

/-- The exponent that a word is. -/
def exponent? (cs : List Char) : Option Int :=
  let (negative, rest) := splitSign cs
  (separated? Char.isDigit rest).map fun ds =>
    let n : Int := digitsValue 10 ds
    if negative then -n else n

/-- The parts of a word before and behind an exponent mark. -/
def splitExponent (cs : List Char) : List Char × Option (List Char) :=
  match cs.span fun c => c != 'e' && c != 'E' with
  | (mantissa, []) => (mantissa, none)
  | (mantissa, _ :: power) => (mantissa, some power)

/-- The digits before and behind the point of a word, and no digits behind if it has no point. -/
def mantissa? (cs : List Char) : Option (List Char × List Char) :=
  match cs.span (· != '.') with
  | (whole, []) => (wholeDigits? whole).map (·, [])
  | (whole, _ :: fractional) => do
    return (← wholeDigits? whole, ← separated? Char.isDigit fractional)

/-- The finite number with a point or an exponent that a word is. -/
def finite? (cs : List Char) : Option Value :=
  let (negative, rest) := splitSign cs
  match splitExponent rest with
  | (mantissa, none) => if mantissa.contains '.' then decimal? negative mantissa 0 else none
  | (mantissa, some power) => (exponent? power).bind (decimal? negative mantissa ·)
where
  /-- The number with a given sign, mantissa and exponent, unless it is too large. -/
  decimal? (negative : Bool) (mantissa : List Char) (power : Int) : Option Value := do
    let (whole, fractional) ← mantissa? mantissa
    let d : Decimal :=
      ⟨negative, digitsValue 10 (whole ++ fractional), power - (fractional.length : Int)⟩
    return .fraction (.finite (← d.toBinary?))

/-- The number that is not finite that a word names. -/
def special? (cs : List Char) : Option Value :=
  let (negative, rest) := splitSign cs
  if rest == ['i', 'n', 'f'] then some (.fraction (.infinite negative))
  else if rest == ['n', 'a', 'n'] then some (.fraction .undefined)
  else none

/-! ## Dates and times -/

/-- The number that exactly `n` digits at the front write, and what stands behind them. -/
def fixed? (n : Nat) (cs : List Char) : Option (Nat × List Char) :=
  let ds := cs.take n
  if ds.length = n && ds.all Char.isDigit then some (digitsValue 10 ds, cs.drop n) else none

/-- What stands behind a given character at the front. -/
def after? (c : Char) (cs : List Char) : Option (List Char) :=
  match cs with
  | d :: rest => if c == d then some rest else none
  | [] => none

/-- The number of days of a month. -/
def daysIn (year month : Nat) : Nat :=
  if month = 2 then
    if year % 4 = 0 && (year % 100 != 0 || year % 400 = 0) then 29 else 28
  else if [4, 6, 9, 11].contains month then 30
  else 31

/-- What stands behind a date at the front. -/
def date? (cs : List Char) : Option (List Char) := do
  let (year, cs) ← fixed? 4 cs
  let (month, cs) ← fixed? 2 (← after? '-' cs)
  let (day, cs) ← fixed? 2 (← after? '-' cs)
  if 1 ≤ month && month ≤ 12 && 1 ≤ day && day ≤ daysIn year month then some cs else none

/-- What stands behind a fraction of a second at the front, if there is one. -/
def secondFraction? (cs : List Char) : Option (List Char) :=
  match cs with
  | '.' :: rest => if rest.head?.any Char.isDigit then some (rest.dropWhile Char.isDigit) else none
  | cs => some cs

/-- What stands behind the seconds at the front, if there are any. -/
def seconds? (cs : List Char) : Option (List Char) :=
  match cs with
  | ':' :: rest => do
    let (second, rest) ← fixed? 2 rest
    if second ≤ 60 then secondFraction? rest else none
  | cs => some cs

/-- What stands behind a time of day at the front.  The seconds may be left out. -/
def time? (cs : List Char) : Option (List Char) := do
  let (hour, cs) ← fixed? 2 cs
  let (minute, cs) ← fixed? 2 (← after? ':' cs)
  if hour ≤ 23 && minute ≤ 59 then seconds? cs else none

/-- Whether a word is the offset of a time zone. -/
def isOffset (cs : List Char) : Bool :=
  let hours (cs : List Char) : Option (List Char) := do
    let (hour, cs) ← fixed? 2 cs
    let (minute, cs) ← fixed? 2 (← after? ':' cs)
    if hour ≤ 23 && minute ≤ 59 then some cs else none
  match cs with
  | ['Z'] => true
  | ['z'] => true
  | '+' :: rest => hours rest = some []
  | '-' :: rest => hours rest = some []
  | _ => false

/-- Whether a word is a date, a time of day, or both. -/
def isMoment (cs : List Char) : Bool :=
  match date? cs with
  | some [] => true
  | some (c :: rest) =>
    (c == 'T' || c == 't' || c == ' ') &&
      match time? rest with
      | some [] => true
      | some offset => isOffset offset
      | none => false
  | none => time? cs = some []

/-! ## Words -/

/-- Whether `c` ends a word. -/
def endsWord (c : Char) : Bool :=
  [' ', '\t', '\n', '\r', ',', ']', '}', '#'].contains c

/-- The word at the front and what stands behind it.  A space belongs to a word if a date stands in
front of it and a digit behind. -/
def spanWord (cs : List Char) : List Char × List Char :=
  let (word, rest) := cs.span (!endsWord ·)
  match rest with
  | ' ' :: next :: _ =>
    if date? word = some [] && next.isDigit then
      let (more, rest) := rest.tail.span (!endsWord ·)
      (word ++ ' ' :: more, rest)
    else (word, rest)
  | rest => (word, rest)

/-- The value of a word. -/
def ofWord? (cs : List Char) : Option Value :=
  if cs == ['t', 'r', 'u', 'e'] then some (.boolean true)
  else if cs == ['f', 'a', 'l', 's', 'e'] then some (.boolean false)
  else if isMoment cs then some .moment
  else integer? cs <|> finite? cs <|> special? cs

/-- The value written by the word at the front, and what stands behind it. -/
def scalar? (cs : List Char) : Option (Value × List Char) :=
  let (word, rest) := spanWord cs
  (ofWord? word).map (·, rest)

end DataContract.Document.Toml
