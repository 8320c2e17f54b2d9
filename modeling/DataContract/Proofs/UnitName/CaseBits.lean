import DataContract.Proofs.UnitName.Injective

/-!
# The bits of a case signature

A case signature packs bits into hexadecimal digits, four to a digit.  Unpacking gives the bits back,
and behind them the zeros that have filled up the last digit.  How many bits there were the digits do
not tell; whoever unpacks them has to know it from elsewhere.
-/

namespace DataContract

namespace UnitName

/-- The four bits of a hexadecimal digit, the most significant first. -/
def bitsOfHex (c : Char) : List Bool :=
  [8, 4, 2, 1].map fun weight => signatureDigits.idxOf c / weight % 2 == 1

/-- The bits of a case signature, with the zeros that fill up its last digit. -/
def unpackBits (signature : List Char) : List Bool := signature.flatMap bitsOfHex

/-- How many zeros fill up the last digit for so many bits. -/
def fillUp (count : Nat) : Nat := (4 - count % 4) % 4

/-- A digit has the bits that it was made of. -/
theorem bitsOfHex_hexOfBits {bits : List Bool} (h : bits.length ≤ 4) :
    bitsOfHex (hexOfBits bits) = bits ++ List.replicate (4 - bits.length) false :=
  forall_length_le_four
    (P := fun bits => bitsOfHex (hexOfBits bits) = bits ++ List.replicate (4 - bits.length) false)
    (by decide) (by decide) (by decide) (by decide) (by decide) h

/-- **Bits are unpacked as they were packed**, with less than one digit of zeros behind them. -/
theorem unpackBits_packBits (bits : List Bool) :
    unpackBits (packBits bits) = bits ++ List.replicate (fillUp bits.length) false := by
  have hlast : ∀ short : List Bool, short.length ≤ 4 →
      unpackBits [hexOfBits short] = short ++ List.replicate (4 - short.length) false :=
    fun short hlen => (List.append_nil _).trans (bitsOfHex_hexOfBits hlen)
  match bits with
  | [] => rfl
  | [a] => exact hlast [a] (by simp)
  | [a, b] => exact hlast [a, b] (by simp)
  | [a, b, c] => exact hlast [a, b, c] (by simp)
  | a :: b :: c :: d :: rest =>
    have hdigit : bitsOfHex (hexOfBits [a, b, c, d]) = [a, b, c, d] :=
      bitsOfHex_hexOfBits (by simp)
    have hfill : fillUp (a :: b :: c :: d :: rest).length = fillUp rest.length := by
      simp only [fillUp, List.length_cons]
      omega
    rw [packBits, unpackBits, List.flatMap_cons, hdigit, ← unpackBits, unpackBits_packBits rest,
      hfill]
    rfl

end UnitName

end DataContract
