import DataContract.Declaration.Candidate
import DataContract.Engine
import DataContract.Text.Case

/-!
# Unit names

Every generated unit has a name made from the qualified name of its type and the engine, so that
no two units ever share one.

The segments are joined by underscores.  An underscore inside a segment is written `_0`, and the
number of type parameters `_n` with a positive `n`, so a separating underscore is one that no digit
follows.

Units become files, and not every file system tells upper from lower case.  So the name ends with
a *case signature*: one bit for every cased character, in order, four of them to a hexadecimal
digit.  It is left out if there is no such character.
-/

namespace DataContract

open Declaration

/-- The name of a generated unit. -/
structure UnitName where
  text : String
  deriving DecidableEq, Repr

/-! ## The case signature -/

/-- The number whose binary digits are the given bits, the first of which has the weight
`2 ^ w`. -/
def bitsValue : Nat → List Bool → Nat
  | _, [] => 0
  | w, b :: rest => (if b then Nat.pow 2 w else 0) + bitsValue (w - 1) rest

/-- Up to four bits as a hexadecimal digit, the first one being the most significant of four. -/
def hexOfBits (bits : List Bool) : Char := Nat.digitChar (bitsValue 3 bits)

/-- Bits as hexadecimal digits, four to a digit, where zeros fill up the last one. -/
def packBits : List Bool → List Char
  | a :: b :: c :: d :: rest => hexOfBits [a, b, c, d] :: packBits rest
  | [] => []
  | short => [hexOfBits short]

/-- One bit for every cased character: whether it is upper case. -/
def caseBits (cs : List Char) : List Bool := (cs.filter Text.hasCase).map Text.isUpper

/-- The case signature of a text. -/
def caseSignature (cs : List Char) : List Char := packBits (caseBits cs)

/-! ## Flattening -/

/-- What stands for `c` in a unit name. -/
def escapeUnderscore (c : Char) : List Char := if c = '_' then ['_', '0'] else [c]

/-- A segment with the number of its type parameters, if it has any, and an underscore. -/
def flattenSegment (s : Segment) : List Char :=
  s.name.toList.flatMap escapeUnderscore ++
    (if s.arity = 0 then [] else '_' :: Nat.toDigits 10 s.arity) ++ ['_']

/-- The flattened segments of a qualified name. -/
def flattenSegments (n : QualifiedName) : List Char := n.segments.flatMap flattenSegment

/-- A flattened name with the ending that stands for an engine and a case signature. -/
def addEnding (flat : List Char) (e : Engine) (signature : List Char) : List Char :=
  flat ++ e.unitSuffix.toList ++ (if signature.isEmpty then [] else '_' :: signature)

namespace UnitName

/-- The name of the unit for a qualified name and an engine. -/
def flatten (n : QualifiedName) (e : Engine) : UnitName :=
  let flat := flattenSegments n
  ⟨String.ofList (addEnding flat e (caseSignature flat))⟩

/-- The name of the unit for a candidate and an engine. -/
def ofCandidate (c : Candidate) (e : Engine) : UnitName := flatten c.qualifiedName e

/-- The name of the file that holds source text under a given name. -/
def sourceFile (name : String) : String := name ++ ".g.cs"

/-- The name of the file that holds a unit. -/
def fileName (n : UnitName) : String := sourceFile n.text

/-- The name on a file system that does not tell upper from lower case. -/
def folded (n : UnitName) : String := Text.lowercase n.text

end UnitName

end DataContract
