import DataContract.Text.Case

/-!
# Lowering a text piece by piece

Only one thing keeps lower-casing from being done character by character: a capital sigma looks
around itself.  It does not look past a character that has no case and that case does not ignore.
Such a character is called *inert* here if it also stays as it is.  The underscore and the digits
are inert.

* `lowerFrom_cons_of_isInert` --- behind an inert character, lowering makes a fresh start.
* `lowerChar_eq_or` --- what changes is moved to a code point behind the underscore and the digits,
  so lowering never makes one of them (`underscore_notMem_lowerPiece`, `head_lowerFrom`).
-/

namespace DataContract.Text

/-! ## The table of lower-case forms -/

/-- Every run of the table ends up at valid code points behind the underscore. -/
theorem lowerShifts_range : ∀ run ∈ lowerShifts,
    0x61 ≤ run.first + run.shift ∧
      (run.last + run.shift < 0xd800 ∨
        0xe000 ≤ run.first + run.shift ∧ run.last + run.shift < 0x110000) := by
  decide +kernel

/-- A character is its own lower-case form, or its lower-case form stands behind the underscore. -/
theorem lowerChar_eq_or (c : Char) : lowerChar c = c ∨ 0x61 ≤ (lowerChar c).toNat := by
  rw [lowerChar]
  cases hfind : lowerShifts.find? (·.covers c.toNat) with
  | none => exact Or.inl rfl
  | some run =>
    right
    obtain ⟨hlow, hvalid⟩ := lowerShifts_range run (List.mem_of_find?_eq_some hfind)
    have hcovers := List.find?_some hfind
    simp only [ShiftRun.covers, Bool.and_eq_true, decide_eq_true_eq] at hcovers
    obtain ⟨⟨hfirst, hlast⟩, -⟩ := hcovers
    have hchar : ((c.toNat : Int) + run.shift).toNat.isValidChar := by
      rcases hvalid with h | h
      · exact Or.inl (by omega)
      · exact Or.inr ⟨by omega, by omega⟩
    show 0x61 ≤ (Char.ofNat (c.toNat + run.shift).toNat).toNat
    rw [Char.ofNat, dif_pos hchar]
    show 0x61 ≤ (c.toNat + run.shift).toNat
    omega

theorem lowerChar_ne_underscore {c : Char} (hc : c ≠ '_') : lowerChar c ≠ '_' := by
  rcases lowerChar_eq_or c with h | h
  · rwa [h]
  · intro heq
    rw [heq] at h
    exact absurd h (by decide)

/-! ## Inert characters -/

/-- Whether a character stays as it is, and no sigma looks past it. -/
def isInert (c : Char) : Bool :=
  !caseIgnorableSet.contains c && !casedSet.contains c && lowerFrom [] [c] == [c]

theorem isInert_underscore : isInert '_' = true := by decide +kernel

theorem isInert_of_isDigit {c : Char} (hc : c.isDigit = true) : isInert c = true := by
  have hall : ∀ n ∈ List.range 10, isInert (Char.ofNat (48 + n)) = true := by decide +kernel
  rw [Char.isDigit_iff_toNat] at hc
  have hlow : 48 ≤ c.toNat := hc.1
  have hhigh : c.toNat ≤ 57 := hc.2
  have h := hall (c.toNat - 48) (List.mem_range.mpr (by omega))
  rwa [Nat.add_sub_of_le hlow, Char.ofNat_toNat] at h

theorem not_ignorable_of_isInert {c : Char} (hc : isInert c = true) :
    caseIgnorableSet.contains c = false := by
  simp only [isInert, Bool.and_eq_true, Bool.not_eq_true'] at hc
  exact hc.1.1

theorem not_cased_of_isInert {c : Char} (hc : isInert c = true) : casedSet.contains c = false := by
  simp only [isInert, Bool.and_eq_true, Bool.not_eq_true'] at hc
  exact hc.1.2

/-! ## One character at a time -/

/-- What a character becomes between `before`, given last character first, and `after`. -/
def lowerPiece (before : List Char) (c : Char) (after : List Char) : List Char :=
  if c = 'Σ' then [smallSigma before after]
  else if c = 'İ' then ['i', '\u0307']
  else [lowerChar c]

theorem lowerFrom_cons (before : List Char) (c : Char) (rest : List Char) :
    lowerFrom before (c :: rest) = lowerPiece before c rest ++ lowerFrom (c :: before) rest := rfl

/-- A character only takes note of whether there are cased characters around it. -/
theorem lowerPiece_congr {b b' a a' : List Char} (hb : casedAhead b = casedAhead b')
    (ha : casedAhead a = casedAhead a') (c : Char) : lowerPiece b c a = lowerPiece b' c a' := by
  rw [lowerPiece, lowerPiece, smallSigma, smallSigma, hb, ha]

/-- Lowering never makes an underscore. -/
theorem underscore_notMem_lowerPiece {c : Char} (hc : c ≠ '_') (before after : List Char) :
    '_' ∉ lowerPiece before c after := by
  rw [lowerPiece, smallSigma]
  split
  · split <;> decide
  · split
    · decide
    · rw [List.mem_singleton]
      exact (lowerChar_ne_underscore hc).symm

theorem underscore_notMem_lowerFrom {cs : List Char} (hcs : '_' ∉ cs) (before : List Char) :
    '_' ∉ lowerFrom before cs := by
  induction cs generalizing before with
  | nil => exact List.not_mem_nil
  | cons c cs ih =>
    rw [List.mem_cons, not_or] at hcs
    rw [lowerFrom_cons, List.mem_append, not_or]
    exact ⟨underscore_notMem_lowerPiece (Ne.symm hcs.1) before cs, ih hcs.2 (c :: before)⟩

/-- An inert character stays as it is. -/
theorem lowerPiece_of_isInert {c : Char} (hc : isInert c = true) (before after : List Char) :
    lowerPiece before c after = [c] := by
  have hlower : lowerPiece [] c [] = [c] := by
    simp only [isInert, Bool.and_eq_true, beq_iff_eq] at hc
    rw [← hc.2, lowerFrom_cons, lowerFrom, List.append_nil]
  have hsigma : c ≠ 'Σ' := by
    rintro rfl
    exact absurd hc (by decide +kernel)
  rw [lowerPiece, if_neg hsigma] at hlower ⊢
  exact hlower

/-- A piece begins with a digit only if it is that digit. -/
theorem head_lowerPiece (before : List Char) (c : Char) (after : List Char) :
    (lowerPiece before c after).head?.any Char.isDigit = c.isDigit := by
  by_cases hc : c.isDigit = true
  · rw [lowerPiece_of_isInert (isInert_of_isDigit hc)]
    rfl
  · rw [Bool.not_eq_true] at hc
    rw [hc, lowerPiece, smallSigma]
    split
    · split <;> decide
    · split
      · decide
      · show (lowerChar c).isDigit = false
        rcases lowerChar_eq_or c with h | h
        · rwa [h]
        · rw [Bool.eq_false_iff, ne_eq, Char.isDigit_iff_toNat]
          have hnine : '9'.toNat = 57 := by decide
          omega

/-- A lowered text begins with a digit only if the text does. -/
theorem head_lowerFrom (before cs : List Char) :
    (lowerFrom before cs).head?.any Char.isDigit = cs.head?.any Char.isDigit := by
  cases cs with
  | nil => rfl
  | cons c cs =>
    have hpiece := head_lowerPiece before c cs
    rw [lowerFrom_cons]
    cases hne : lowerPiece before c cs with
    | nil =>
      rw [lowerPiece] at hne
      split at hne
      · cases hne
      · split at hne <;> cases hne
    | cons d rest =>
      rw [hne] at hpiece
      exact hpiece

/-! ## Cutting a text -/

theorem casedAhead_cons (c : Char) (cs : List Char) :
    casedAhead (c :: cs) =
      if caseIgnorableSet.contains c then casedAhead cs else casedSet.contains c := by
  rw [casedAhead, List.dropWhile_cons]
  by_cases h : caseIgnorableSet.contains c
  · rw [if_pos h, if_pos h]
    rfl
  · rw [if_neg h, if_neg h]

/-- No sigma looks past an inert character. -/
theorem casedAhead_inert {d : Char} (hd : isInert d = true) (cs t : List Char) :
    casedAhead (cs ++ d :: t) = casedAhead cs := by
  induction cs with
  | nil =>
    rw [List.nil_append, casedAhead_cons, not_ignorable_of_isInert hd, not_cased_of_isInert hd]
    rfl
  | cons c cs ih => rw [List.cons_append, casedAhead_cons, casedAhead_cons, ih]

/-- What stands before a text only matters by whether it ends in something cased. -/
theorem lowerFrom_congr {b b' : List Char} (h : casedAhead b = casedAhead b') (cs : List Char) :
    lowerFrom b cs = lowerFrom b' cs := by
  induction cs generalizing b b' with
  | nil => rfl
  | cons c cs ih =>
    have hnext : casedAhead (c :: b) = casedAhead (c :: b') := by
      rw [casedAhead_cons, casedAhead_cons, h]
    rw [lowerFrom_cons, lowerFrom_cons, lowerPiece_congr h rfl c, ih hnext]

/-- An inert character makes a fresh start. -/
theorem lowerFrom_cons_of_isInert {d : Char} (hd : isInert d = true) (before t : List Char) :
    lowerFrom before (d :: t) = d :: lowerFrom [] t := by
  have hstart : casedAhead (d :: before) = casedAhead [] :=
    (casedAhead_inert hd [] before).trans rfl
  rw [lowerFrom_cons, lowerPiece_of_isInert hd, lowerFrom_congr hstart, List.singleton_append]

/-- Without a sigma, a text is lowered in the same way wherever it stands. -/
theorem lowerFrom_append_of_notMem {cs : List Char} (hcs : 'Σ' ∉ cs) (before t : List Char) :
    lowerFrom before (cs ++ t) = lowerFrom [] cs ++ lowerFrom (cs.reverse ++ before) t := by
  have hpiece : ∀ c ∈ cs, ∀ b a, lowerPiece b c a = lowerPiece [] c [] := by
    intro c hc b a
    have hsigma : c ≠ 'Σ' := by
      rintro rfl
      exact hcs hc
    rw [lowerPiece, lowerPiece, if_neg hsigma, if_neg hsigma]
  have hall : ∀ b t, lowerFrom b (cs ++ t) =
      (cs.flatMap fun c => lowerPiece [] c []) ++ lowerFrom (cs.reverse ++ b) t := by
    clear hcs
    induction cs with
    | nil => exact fun _ _ => rfl
    | cons c cs ih =>
      intro b t
      rw [List.cons_append, lowerFrom_cons, hpiece c (List.mem_cons_self ..),
        ih (fun c hc => hpiece c (List.mem_cons_of_mem _ hc)), List.flatMap_cons,
        List.reverse_cons, List.append_assoc, List.append_assoc, List.singleton_append]
  have hself := hall [] []
  rw [List.append_nil, lowerFrom, List.append_nil] at hself
  rw [hall, hself]

/-- Whether a character is its own lower-case form wherever it stands. -/
def IsFixed (c : Char) : Prop := c ≠ 'Σ' ∧ c ≠ 'İ' ∧ lowerChar c = c

/-- Whether a character stands up to U+00BF and is none of the letters from A to Z. -/
def isUnshifted (c : Char) : Bool := c.toNat < 0x41 || 0x5a < c.toNat && c.toNat < 0xc0

/-- Up to U+00BF only the letters from A to Z have lower-case forms. -/
theorem isFixed_of_isUnshifted {c : Char} (hc : isUnshifted c = true) : IsFixed c := by
  have hruns : ∀ run ∈ lowerShifts, (run.first = 0x41 ∧ run.last = 0x5a) ∨ 0xc0 ≤ run.first := by
    decide +kernel
  have hnone : lowerShifts.find? (·.covers c.toNat) = none := by
    rw [List.find?_eq_none]
    intro run hrun hcovers
    simp only [ShiftRun.covers, Bool.and_eq_true, decide_eq_true_eq] at hcovers
    simp only [isUnshifted, Bool.or_eq_true, Bool.and_eq_true, decide_eq_true_eq] at hc
    have hfirst := hruns run hrun
    omega
  refine ⟨?_, ?_, ?_⟩
  · rintro rfl
    exact absurd hc (by decide)
  · rintro rfl
    exact absurd hc (by decide)
  · rw [lowerChar, hnone]

theorem isFixed_of_all {cs : List Char} (hcs : cs.all isUnshifted = true) : ∀ c ∈ cs, IsFixed c :=
  fun c hc => isFixed_of_isUnshifted (List.all_eq_true.mp hcs c hc)

/-- A text of characters that are their own lower-case forms stays as it is. -/
theorem lowerFrom_of_fixed {cs : List Char} (hcs : ∀ c ∈ cs, IsFixed c) (before : List Char) :
    lowerFrom before cs = cs := by
  induction cs generalizing before with
  | nil => rfl
  | cons c cs ih =>
    obtain ⟨hsigma, hdot, hlower⟩ := hcs c (List.mem_cons_self ..)
    rw [lowerFrom_cons, lowerPiece, if_neg hsigma, if_neg hdot, hlower,
      ih fun c hc => hcs c (List.mem_cons_of_mem _ hc), List.singleton_append]

/-- Inert characters stay as they are, and what follows them makes a fresh start. -/
theorem lowerFrom_append_of_isInert {cs : List Char} (hcs : ∀ c ∈ cs, isInert c = true)
    (t : List Char) : lowerFrom [] (cs ++ t) = cs ++ lowerFrom [] t := by
  induction cs with
  | nil => rfl
  | cons c cs ih =>
    rw [List.cons_append, lowerFrom_cons_of_isInert (hcs c (List.mem_cons_self ..)),
      ih fun c hc => hcs c (List.mem_cons_of_mem _ hc), List.cons_append]

end DataContract.Text
