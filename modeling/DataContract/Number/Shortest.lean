import DataContract.Number.Decimal

/-!
# The shortest decimal that reads back

A binary number is shown with as few digits as still determine it.  `shortest` looks for them on
one decimal grid after another, from one significant digit to seventeen.  The numbers that round
to the given one form an interval, and if any point of a grid lies in it then one of the two grid
points around the number itself does; of two such points the nearer is taken.

Two layouts place those digits.  `compact` writes moderate numbers with a point and the others
with an exponent; `plain` never uses an exponent.  Both show a fraction of zero.
-/

namespace DataContract.Number

/-- The greatest `e` with `10 ^ e ≤ num / den`, for a positive fraction below one, found by trying
`-1`, `-2` and so on for at most `fuel` steps. -/
def floorLog10Below (num den : Nat) : Nat → Nat → Int
  | 0, j => -(j : Int)
  | fuel + 1, j =>
    if den ≤ num * Nat.pow 10 j then -(j : Int) else floorLog10Below num den fuel (j + 1)

/-- The greatest `e` with `10 ^ e ≤ num / den`, for a positive fraction of at least `10 ^ -400`. -/
def floorLog10 (num den : Nat) : Int :=
  if den ≤ num then ((Nat.toDigits 10 (num / den)).length : Int) - 1
  else floorLog10Below num den 400 1

/-- Digits and the power of ten that they are multiplied by. -/
structure Digits where
  digits : Nat
  exponent : Int
  deriving DecidableEq, Repr

/-- The same number with the last digit not a zero; at most `fuel` zeros are taken off. -/
def Digits.normal (d : Digits) : Nat → Digits
  | 0 => d
  | fuel + 1 =>
    if d.digits % 10 == 0 then Digits.normal ⟨d.digits / 10, d.exponent + 1⟩ fuel else d

/-- The shortest digits for the number `4 * c * 2 ^ e` when the numbers from
`low * 2 ^ e` to `high * 2 ^ e` round to it, the ends included if `closed`; grids of `n`
significant digits and more are tried for at most `fuel` steps. -/
def shortestFrom (c low high : Nat) (closed : Bool) (e : Int) : Nat → Nat → Digits
  | 0, _ => ⟨0, 0⟩
  | fuel + 1, n =>
    let (num, den) := scale 2 (4 * c) 1 e
    let k := floorLog10 num den - (n : Int) + 1
    let (gridNum, gridDen) := scale 10 num den (-k)
    let below := gridNum / gridDen
    let (lowNum, lowDen) := scale 2 low 1 e
    let (highNum, highDen) := scale 2 high 1 e
    let inside (d : Nat) : Bool :=
      let (a, b) := scale 10 d 1 k
      if closed then lowNum * b ≤ a * lowDen && a * highDen ≤ highNum * b
      else lowNum * b < a * lowDen && a * highDen < highNum * b
    let nearBelow := 2 * (gridNum % gridDen) ≤ gridDen
    if inside below && (nearBelow || !inside (below + 1)) then ⟨below, k⟩
    else if inside (below + 1) then ⟨below + 1, k⟩
    else shortestFrom c low high closed e fuel (n + 1)

/-- The shortest digits that determine a binary number other than zero. -/
def shortest (b : Binary) : Digits :=
  let c := b.coefficient
  let low := if c = Nat.pow 2 52 && b.exponent != -1074 then 4 * c - 1 else 4 * c - 2
  (shortestFrom c low (4 * c + 2) (c % 2 == 0) (b.exponent - 2) 17 1).normal 17

/-! ## Layouts -/

/-- `n` zeros. -/
def zeros (n : Nat) : String := String.ofList (List.replicate n '0')

/-- The digits with the point behind the first `places` of them. -/
def pointAfter (digits : List Char) (places : Nat) : String :=
  String.ofList (digits.take places) ++ "." ++ String.ofList (digits.drop places)

/-- The digits with a point and no exponent, where `point` digits stand before the point. -/
def positional (digits : List Char) (point : Int) : String :=
  if point ≤ 0 then "0." ++ zeros (-point).toNat ++ String.ofList digits
  else if (digits.length : Int) ≤ point then
    String.ofList digits ++ zeros (point.toNat - digits.length) ++ ".0"
  else pointAfter digits point.toNat

/-- A number with a point and no exponent. -/
def Binary.plain (b : Binary) : String :=
  let sign := if b.negative then "-" else ""
  if b.coefficient = 0 then sign ++ "0.0"
  else
    let d := shortest b
    let digits := Nat.toDigits 10 d.digits
    sign ++ positional digits ((digits.length : Int) + d.exponent)

/-- An exponent with its sign. -/
def signedExponent (e : Int) : String := (if e < 0 then "e" else "e+") ++ toString e

/-- A number with a point if at most sixteen digits stand before it and at most four zeros behind
it, and with an exponent and its sign otherwise. -/
def Binary.compact (b : Binary) : String :=
  let sign := if b.negative then "-" else ""
  if b.coefficient = 0 then sign ++ "0.0"
  else
    let d := shortest b
    let digits := Nat.toDigits 10 d.digits
    let point := (digits.length : Int) + d.exponent
    if -5 < point && point ≤ 16 then sign ++ positional digits point
    else
      let mantissa :=
        if digits.length = 1 then String.ofList digits else pointAfter digits 1
      sign ++ mantissa ++ signedExponent (point - 1)

end DataContract.Number
