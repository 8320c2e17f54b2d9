import DataContract.Number.Decimal

/-!
# Numbers read from their leading digits

A snapshot's numbers are read with as many leading digits as a word of 64 bits holds.  They are
rounded to a binary number, which is then multiplied or divided by the binary number nearest to a
power of ten and rounded again.  For short numbers this agrees with rounding once; for long ones
the last bit may differ.
-/

namespace DataContract.Number

namespace Binary

/-- The product of two binary numbers, rounded. -/
def times? (a b : Binary) : Option Binary :=
  let (num, den) := scale 2 (a.coefficient * b.coefficient) 1 (a.exponent + b.exponent)
  nearest? (a.negative != b.negative) num den

/-- The quotient of two binary numbers of which the second is not zero, rounded. -/
def over? (a b : Binary) : Option Binary :=
  let (num, den) := scale 2 a.coefficient b.coefficient (a.exponent - b.exponent)
  nearest? (a.negative != b.negative) num den

/-- The binary number nearest to a power of ten with an exponent of at most 308. -/
def powerOfTen (e : Nat) : Binary := (nearest? false (Nat.pow 10 e) 1).getD ⟨false, 0, 0⟩

/-- A number multiplied by `10 ^ -e`, where larger powers than the 308th are divided out one
after the other, at most `fuel` of them. -/
def downBy (b : Binary) : Nat → Nat → Option Binary
  | 0, _ => some b
  | fuel + 1, e =>
    if e ≤ 308 then b.over? (powerOfTen e)
    else
      match b.over? (powerOfTen 308) with
      | some smaller => downBy smaller fuel (e - 308)
      | none => none

end Binary

/-- The leading digits of a list of digits that fit a word of 64 bits, added to the digits read
already, and the number of digits left over. -/
def leading : List Nat → Nat → Nat × Nat
  | [], read => (read, 0)
  | d :: rest, read =>
    if 10 * read + d < Nat.pow 2 64 then leading rest (10 * read + d) else (read, rest.length + 1)

/-- The number with the given digits before and behind the point, times a power of ten, unless it
is too large. -/
def ofLeading? (negative : Bool) (whole fractional : List Nat) (exponent : Int) :
    Option Binary :=
  let (digits, dropped) := leading (whole ++ fractional) 0
  let behind := fractional.length - dropped
  let ahead := dropped - fractional.length
  let exponent := exponent + (ahead : Int) - (behind : Int)
  match nearest? negative digits 1 with
  | none => none
  | some b =>
    if b.coefficient = 0 then some b
    else if exponent < 0 then
      if exponent < -5000 then some ⟨negative, 0, 0⟩ else b.downBy 20 (-exponent).toNat
    else if 308 < exponent then none
    else b.times? (Binary.powerOfTen exponent.toNat)

end DataContract.Number
