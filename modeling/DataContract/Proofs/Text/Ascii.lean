import DataContract.Text.Case

/-!
# Case in ASCII

Of the tables that say which characters have case and what becomes of them, only the first run begins
in ASCII, and it is that of the 26 letters.  So for a character in ASCII the tables can be left aside.
-/

namespace DataContract.Text

/-- Whether a character is in ASCII. -/
def isAscii (c : Char) : Bool := c.toNat < 0x80

/-- What holds of the first 128 characters, one by one, holds of every character in ASCII. -/
theorem forall_isAscii {P : Char → Prop} (h : ∀ n < 0x80, P (Char.ofNat n)) {c : Char}
    (hc : isAscii c = true) : P c := by
  have hn := h c.toNat (by simpa [isAscii] using hc)
  rwa [Char.ofNat_toNat] at hn

/-- The runs of a set that begin before a code point. -/
def CharSet.below (s : CharSet) (limit : Nat) : CharSet where
  solid := s.solid.filter (·.1 < limit)
  alternating := s.alternating.filter (·.1 < limit)

/-- Whether a code point lies in a set is decided by the runs that begin before any limit behind it. -/
theorem CharSet.containsCode_below (s : CharSet) {limit n : Nat} (hn : n < limit) :
    (s.below limit).containsCode n = s.containsCode n := by
  have hsolid : ∀ run : Nat × Nat, (decide (run.1 < limit) && (decide (run.1 ≤ n) &&
      decide (n ≤ run.2))) = (decide (run.1 ≤ n) && decide (n ≤ run.2)) := by
    intro run
    by_cases hrun : run.1 ≤ n
    · simp [hrun, Nat.lt_of_le_of_lt hrun hn]
    · simp [hrun]
  have halternating : ∀ run : Nat × Nat, (decide (run.1 < limit) && (decide (run.1 ≤ n) &&
      decide (n ≤ run.2) && (n - run.1) % 2 == 0)) =
        (decide (run.1 ≤ n) && decide (n ≤ run.2) && (n - run.1) % 2 == 0) := by
    intro run
    rw [← Bool.and_assoc, hsolid]
  simp only [containsCode, below, List.any_filter, hsolid, halternating]

/-- The upper-case characters in ASCII. -/
theorem isUpper_ascii {c : Char} (hc : isAscii c = true) : isUpper c = c.isUpper := by
  have htable : uppercaseSet.below 0x80 = ⟨[(0x41, 0x5A)], []⟩ := by
    rw [CharSet.below, CharSet.mk.injEq]
    decide +kernel
  have hlimit : c.toNat < 0x80 := by simpa [isAscii] using hc
  rw [isUpper, CharSet.contains, ← uppercaseSet.containsCode_below hlimit, htable]
  exact forall_isAscii (P := fun c => CharSet.containsCode ⟨[(0x41, 0x5A)], []⟩ c.toNat = c.isUpper)
    (by decide) hc

/-- The lower-case characters in ASCII. -/
theorem isLower_ascii {c : Char} (hc : isAscii c = true) : isLower c = c.isLower := by
  have htable : lowercaseSet.below 0x80 = ⟨[(0x61, 0x7A)], []⟩ := by
    rw [CharSet.below, CharSet.mk.injEq]
    decide +kernel
  have hlimit : c.toNat < 0x80 := by simpa [isAscii] using hc
  rw [isLower, CharSet.contains, ← lowercaseSet.containsCode_below hlimit, htable]
  exact forall_isAscii (P := fun c => CharSet.containsCode ⟨[(0x61, 0x7A)], []⟩ c.toNat = c.isLower)
    (by decide) hc

/-- The lower-case forms in ASCII. -/
theorem lowerChar_ascii {c : Char} (hc : isAscii c = true) : lowerChar c = c.toLower := by
  have htable : lowerShifts = ⟨0x41, 0x5A, 1, 32⟩ :: lowerShifts.tail := rfl
  have hbehind : ∀ run ∈ lowerShifts.tail, 0x80 ≤ run.first := by decide +kernel
  have hrest : lowerShifts.tail.find? (·.covers c.toNat) = none := by
    rw [List.find?_eq_none]
    intro run hrun hcovers
    simp only [ShiftRun.covers, Bool.and_eq_true, decide_eq_true_eq] at hcovers
    have hfirst := hbehind run hrun
    have hlimit : c.toNat < 0x80 := by simpa [isAscii] using hc
    omega
  have hlower : lowerChar c =
      if ShiftRun.covers ⟨0x41, 0x5A, 1, 32⟩ c.toNat then Char.ofNat (c.toNat + 32) else c := by
    rw [lowerChar, htable, List.find?_cons, hrest]
    cases ShiftRun.covers ⟨0x41, 0x5A, 1, 32⟩ c.toNat <;> rfl
  rw [hlower]
  exact forall_isAscii (P := fun c =>
    (if ShiftRun.covers ⟨0x41, 0x5A, 1, 32⟩ c.toNat then Char.ofNat (c.toNat + 32) else c) =
      c.toLower) (by decide) hc

/-- The characters with case in ASCII are the letters. -/
theorem hasCase_ascii {c : Char} (hc : isAscii c = true) : hasCase c = c.isAlpha := by
  rw [hasCase, isUpper_ascii hc, isLower_ascii hc]
  rfl

/-- A text in ASCII is lowered character by character. -/
theorem lowerFrom_ascii {cs : List Char} (hcs : ∀ c ∈ cs, isAscii c = true) (before : List Char) :
    lowerFrom before cs = cs.map Char.toLower := by
  induction cs generalizing before with
  | nil => rfl
  | cons c cs ih =>
    have hc := hcs c (List.mem_cons_self ..)
    have hsigma : c ≠ 'Σ' := by
      rintro rfl
      exact absurd hc (by decide)
    have hdot : c ≠ 'İ' := by
      rintro rfl
      exact absurd hc (by decide)
    rw [lowerFrom, if_neg hsigma, if_neg hdot, lowerChar_ascii hc,
      ih fun c hc => hcs c (List.mem_cons_of_mem _ hc)]
    rfl

end DataContract.Text
