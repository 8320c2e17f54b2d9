import DataContract.Text.LetterTable

/-!
# Upper and lower case

`isUpper` and `isLower` are the derived properties Uppercase and Lowercase, which go beyond the
letters: the circled letters and the Roman numerals have case too, and the title-case digraphs
have neither property.

`lowercase` is the full lower-case form of a text.  It differs from mapping each character by
itself in two places.

* The capital I with a dot becomes two characters, an i and a combining dot.
* A capital sigma becomes the final sigma where it ends a word: where, leaving aside characters
  that case ignores, a cased character stands before it and none stands after it.
-/

namespace DataContract.Text

/-- Whether `c` has the property Uppercase. -/
def isUpper (c : Char) : Bool := uppercaseSet.contains c

/-- Whether `c` has the property Lowercase. -/
def isLower (c : Char) : Bool := lowercaseSet.contains c

/-- Whether `c` has case in one of the two senses that a text records. -/
def hasCase (c : Char) : Bool := isUpper c || isLower c

namespace ShiftRun

/-- Whether the run moves the code point `n`. -/
def covers (run : ShiftRun) (n : Nat) : Bool :=
  run.first ≤ n && n ≤ run.last && (n - run.first) % run.stride == 0

end ShiftRun

/-- The lower-case form of a character that has one of a single character, and any other character
itself. -/
def lowerChar (c : Char) : Char :=
  match lowerShifts.find? (·.covers c.toNat) with
  | some run => Char.ofNat (c.toNat + run.shift).toNat
  | none => c

/-! ## The sigma at the end of a word -/

/-- Whether the first character that case does not ignore is cased. -/
def casedAhead (cs : List Char) : Bool :=
  match cs.dropWhile caseIgnorableSet.contains with
  | [] => false
  | c :: _ => casedSet.contains c

/-- The small sigma for a capital one between `before`, which is given last character first, and
`after`. -/
def smallSigma (before after : List Char) : Char :=
  if casedAhead before && !casedAhead after then 'ς' else 'σ'

/-! ## Whole texts -/

/-- The lower-case form of a list of characters that follows `before`, given last character
first. -/
def lowerFrom (before : List Char) : List Char → List Char
  | [] => []
  | c :: rest =>
    let here :=
      if c = 'Σ' then [smallSigma before rest]
      else if c = 'İ' then ['i', '\u0307']
      else [lowerChar c]
    here ++ lowerFrom (c :: before) rest

/-- The lower-case form of a text. -/
def lowercase (s : String) : String := String.ofList (lowerFrom [] s.toList)

end DataContract.Text
