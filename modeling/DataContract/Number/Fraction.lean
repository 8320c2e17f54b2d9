import DataContract.Number.Shortest

/-!
# Numbers with a fraction

A number that a document writes with a point or an exponent is held as the binary number nearest
to it.  A configuration file can also name the two infinities and the undefined number.
-/

namespace DataContract.Number

/-- A number that is not held as an integer. -/
inductive Fraction
  | finite (value : Binary)
  | infinite (negative : Bool)
  | undefined
  deriving DecidableEq, Repr

namespace Fraction

/-- The text of a number in a given layout of the finite ones. -/
def text (layout : Binary → String) : Fraction → String
  | finite value => layout value
  | infinite negative => if negative then "-inf" else "inf"
  | undefined => "NaN"

end Fraction

end DataContract.Number
