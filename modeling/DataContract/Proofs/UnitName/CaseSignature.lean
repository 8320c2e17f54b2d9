import DataContract.Proofs.UnitName.CaseBits
import Mathlib.Data.List.Forall2

/-!
# What a case signature tells

Two things could go wrong where bits are packed into a digit.  The first bit is shifted by three places,
the next by two, and so on, so there is no place for a fifth; and the number that the bits make up might
have no digit.  `checkedDigit?` packs a group of bits in a way that fails in both cases.  It never does,
and it gives the digits of the signature (`map_checkedDigit?_groups`).

Together with `unpackBits_packBits` this says what a signature is: the case of all cased characters, and
some zeros.  The zeros cannot be told from small letters, so a signature tells the case of every
character only to those who know how many there are (`caseSignature_eq_iff`).
-/

namespace DataContract

namespace UnitName

/-! ## Checked packing -/

/-- How far the bit at a position of a group is shifted, counting from zero.  Beyond the fourth there is
nothing left to subtract the position from. -/
def shift? (position : Nat) : Option Nat := if position ≤ 3 then some (3 - position) else none

/-- The number that a group of bits makes up, if every bit has a place in it. -/
def groupValue? (group : List Bool) : Option Nat :=
  group.zipIdx.foldlM (fun value bit =>
    (shift? bit.2).map fun shift => value ||| bit.1.toNat <<< shift) 0

/-- The digit for a group of bits, if they make up a number that has one. -/
def checkedDigit? (group : List Bool) : Option Char :=
  (groupValue? group).bind (signatureDigits[·]?)

/-- In a group every bit has its place, and the number that they make up has a digit. -/
theorem checkedDigit?_eq_some {group : List Bool} (h : group.length ≤ 4) :
    checkedDigit? group = some (hexOfBits group) :=
  forall_length_le_four (P := fun group => checkedDigit? group = some (hexOfBits group))
    (by decide) (by decide) (by decide) (by decide) (by decide) h

/-- **Nothing goes wrong where bits are packed**, and the digits are those of the signature. -/
theorem map_checkedDigit?_groups (bits : List Bool) :
    (groups bits).map checkedDigit? = (packBits bits).map some := by
  rw [packBits_eq_map, List.map_map]
  exact List.map_congr_left fun group hgroup => checkedDigit?_eq_some (length_le_of_mem_groups hgroup)

/-! ## Reading the bits -/

/-- Equally many bits are packed in the same way only if they are the same. -/
theorem packBits_inj {bits bits' : List Bool} (hlength : bits.length = bits'.length)
    (h : packBits bits = packBits bits') : bits = bits' := by
  have hunpacked : bits ++ List.replicate (fillUp bits.length) false =
      bits' ++ List.replicate (fillUp bits'.length) false := by
    rw [← unpackBits_packBits, h, unpackBits_packBits]
  exact List.append_inj_left hunpacked hlength

/-- **Signatures of equally many cased characters are the same** exactly if they agree on the case of
each. -/
theorem caseSignature_eq_iff {cs ds : List Char}
    (hcount : (cs.filter Text.hasCase).length = (ds.filter Text.hasCase).length) :
    caseSignature cs = caseSignature ds ↔
      List.Forall₂ (fun c d => Text.isUpper c = Text.isUpper d) (cs.filter Text.hasCase)
        (ds.filter Text.hasCase) := by
  have hlength : (caseBits cs).length = (caseBits ds).length := by
    rw [caseBits, List.length_map, hcount, caseBits, List.length_map]
  have hbits : caseSignature cs = caseSignature ds ↔ caseBits cs = caseBits ds :=
    ⟨packBits_inj hlength, congrArg packBits⟩
  rw [hbits, caseBits, caseBits, ← List.forall₂_eq_eq_eq, List.forall₂_map_left_iff,
    List.forall₂_map_right_iff]

/-- **A case signature is a faithful packing.**  There is one lower-case hexadecimal digit for every group
of four cased characters that has been started, and it is the checked digit of the group.  The bits of
the digits, most significant first, are those of the characters, with fewer than four zeros behind them.
So signatures of equally many cased characters tell the case of each. -/
theorem caseSignature_faithful (cs : List Char) :
    (caseSignature cs).length = ((cs.filter Text.hasCase).length + 3) / 4 ∧
      (∀ digit ∈ caseSignature cs, digit ∈ signatureDigits) ∧
      (groups (caseBits cs)).map checkedDigit? = (caseSignature cs).map some ∧
      (∃ fill < 4, unpackBits (caseSignature cs) = caseBits cs ++ List.replicate fill false) ∧
      ∀ ds, (cs.filter Text.hasCase).length = (ds.filter Text.hasCase).length →
        (caseSignature cs = caseSignature ds ↔
          List.Forall₂ (fun c d => Text.isUpper c = Text.isUpper d) (cs.filter Text.hasCase)
            (ds.filter Text.hasCase)) := by
  have hdigits : (caseSignature cs).length = ((cs.filter Text.hasCase).length + 3) / 4 := by
    rw [caseSignature, packBits_eq_map, List.length_map, length_groups, caseBits, List.length_map]
  have hfill : fillUp (caseBits cs).length < 4 := Nat.mod_lt _ (by decide)
  exact ⟨hdigits, fun _ hdigit => mem_signatureDigits_of_mem_caseSignature hdigit,
    map_checkedDigit?_groups _, ⟨_, hfill, unpackBits_packBits _⟩, fun _ => caseSignature_eq_iff⟩

/-- The seventh of seven letters is told from a small one, though it is in the last group, which is
short. -/
theorem caseSignature_faithful_short :
    ("App_12_PaiR".toList.filter Text.hasCase).length =
        ("App_12_Pair".toList.filter Text.hasCase).length ∧
      caseSignature "App_12_PaiR".toList ≠ caseSignature "App_12_Pair".toList := by
  have hcount : ("App_12_PaiR".toList.filter Text.hasCase).length =
      ("App_12_Pair".toList.filter Text.hasCase).length := by decide +kernel
  obtain ⟨-, -, -, -, hiff⟩ := caseSignature_faithful "App_12_PaiR".toList
  refine ⟨hcount, fun hsame => ?_⟩
  exact absurd ((hiff _ hcount).mp hsame) (by decide +kernel)

/-- If there are not equally many cased characters, a small letter may be taken for a zero. -/
example : caseSignature ['A'] = caseSignature ['A', 'b'] := by decide +kernel

end UnitName

end DataContract
