import DataContract.UnitName

/-!
# Bits in groups of four

A case signature has one hexadecimal digit for every four bits, and one more for what is left over at
the end.  `groups` cuts the bits accordingly, so that what is to be shown of the digits can be shown of
one group at a time (`packBits_eq_map`).  There are few lists of up to four bits, and most of it can be
decided for one length after the other (`forall_length_le_four`).
-/

namespace DataContract.UnitName

/-- Bits in groups of four, of which the last may be shorter. -/
def groups : List Bool → List (List Bool)
  | a :: b :: c :: d :: rest => [a, b, c, d] :: groups rest
  | [] => []
  | short => [short]

/-- Every group makes one digit. -/
theorem packBits_eq_map (bits : List Bool) : packBits bits = (groups bits).map hexOfBits := by
  match bits with
  | [] => rfl
  | [a] => rfl
  | [a, b] => rfl
  | [a, b, c] => rfl
  | a :: b :: c :: d :: rest => rw [packBits, groups, List.map_cons, packBits_eq_map rest]

/-- There are as many groups as are started by so many bits. -/
theorem length_groups (bits : List Bool) : (groups bits).length = (bits.length + 3) / 4 := by
  match bits with
  | [] => rfl
  | [a] | [a, b] | [a, b, c] => simp [groups]
  | a :: b :: c :: d :: rest =>
    rw [groups, List.length_cons, length_groups rest]
    simp only [List.length_cons]
    omega

/-- A group has four bits at most. -/
theorem length_le_of_mem_groups {bits group : List Bool} (h : group ∈ groups bits) :
    group.length ≤ 4 := by
  match bits with
  | [] => cases h
  | [a] | [a, b] | [a, b, c] =>
    rw [List.mem_singleton.mp h]
    simp
  | a :: b :: c :: d :: rest =>
    rw [groups, List.mem_cons] at h
    rcases h with rfl | h
    · simp
    · exact length_le_of_mem_groups h

/-- What holds of all lists of no bits, of one and so on up to four holds of every list that is not
longer. -/
theorem forall_length_le_four {P : List Bool → Prop} (hnone : P []) (hone : ∀ a, P [a])
    (htwo : ∀ a b, P [a, b]) (hthree : ∀ a b c, P [a, b, c]) (hfour : ∀ a b c d, P [a, b, c, d])
    {bits : List Bool} (h : bits.length ≤ 4) : P bits := by
  match bits, h with
  | [], _ => exact hnone
  | [a], _ => exact hone a
  | [a, b], _ => exact htwo a b
  | [a, b, c], _ => exact hthree a b c
  | [a, b, c, d], _ => exact hfour a b c d

end DataContract.UnitName
