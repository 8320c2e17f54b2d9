/-!
# Decimal numbers and the binary numbers nearest to them

A document writes a number in decimal.  Where that number has a fraction or an exponent it is held
as a binary floating-point number of 64 bits, so it is the nearest such number that a message
shows.  This module does the rounding exactly, with natural numbers: a `Decimal` is a sign, a
coefficient and a power of ten, a `Binary` is a sign, a coefficient below `2 ^ 53` and a power of
two, and `nearest?` finds the nearest to a fraction, a tie going to the even coefficient.  It fails
exactly where the nearest number would lie beyond the largest one.
-/

namespace DataContract.Number

/-- The number `± coefficient * 10 ^ exponent`. -/
structure Decimal where
  negative : Bool
  coefficient : Nat
  exponent : Int
  deriving DecidableEq, Repr

/-- The number `± coefficient * 2 ^ exponent`, where the coefficient is below `2 ^ 53` and the
exponent is from -1074 to 971. -/
structure Binary where
  negative : Bool
  coefficient : Nat
  exponent : Int
  deriving DecidableEq, Repr

/-- The natural number nearest to `num / den`, a tie going to the even one. -/
def roundDiv (num den : Nat) : Nat :=
  let whole := num / den
  let twice := 2 * (num % den)
  if twice < den then whole
  else if den < twice then whole + 1
  else if whole % 2 == 0 then whole else whole + 1

/-- The fraction `num / den` multiplied by `base ^ e`. -/
def scale (base : Nat) (num den : Nat) (e : Int) : Nat × Nat :=
  if 0 ≤ e then (num * Nat.pow base e.toNat, den) else (num, den * Nat.pow base (-e).toNat)

/-- The greatest `e` with `2 ^ e ≤ num / den`, for a positive fraction. -/
def floorLog2 (num den : Nat) : Int :=
  let guess : Int := (Nat.log2 num : Int) - (Nat.log2 den : Int)
  let (n, d) := scale 2 num den (-guess)
  if n < d then guess - 1 else guess

/-- The binary number nearest to `num / den`, for a positive denominator, unless it is too large. -/
def nearest? (negative : Bool) (num den : Nat) : Option Binary :=
  if num = 0 then some ⟨negative, 0, 0⟩
  else
    let e := max (floorLog2 num den - 52) (-1074)
    let (n, m) := scale 2 num den (-e)
    let c := roundDiv n m
    let (c, e) := if c = Nat.pow 2 53 then (Nat.pow 2 52, e + 1) else (c, e)
    if 971 < e then none else some ⟨negative, c, e⟩

namespace Decimal

/-- The number of decimal digits of the coefficient. -/
def width (d : Decimal) : Nat := (Nat.toDigits 10 d.coefficient).length

/-- The binary number nearest to a decimal one, unless it is too large.  A number of more than
310 places before the point is too large, and one that begins after 400 zeros behind the point
rounds to zero; only between those is there anything to compute. -/
def toBinary? (d : Decimal) : Option Binary :=
  let places := (d.width : Int) + d.exponent
  if d.coefficient = 0 || places < -400 then some ⟨d.negative, 0, 0⟩
  else if 310 < places then none
  else
    let (num, den) := scale 10 d.coefficient 1 d.exponent
    nearest? d.negative num den

end Decimal

end DataContract.Number
