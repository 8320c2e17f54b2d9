import DataContract.Text.Blank
import Mathlib.Data.List.TakeWhile

/-!
# Trimming

A list of characters is *trimmed* if no white space stands at either end of it.  Trimming finds the
trimmed part of a list: what is left of it is trimmed, and nothing but white space has been taken
away (`trimChars_eq_iff`).  Both together determine what is left, so a list that is trimmed already
stays as it is.
-/

namespace DataContract.Text

/-- There is nothing but white space. -/
def AllBlank (w : List Char) : Prop := ∀ c ∈ w, isBlank c = true

instance (w : List Char) : Decidable (AllBlank w) :=
  decidable_of_iff (w.all isBlank = true) List.all_eq_true

theorem allBlank_nil : AllBlank [] := fun _ h => nomatch h

/-- There is no white space at either end. -/
def Trimmed (cs : List Char) : Prop :=
  (∀ c ∈ cs.head?, isBlank c = false) ∧ ∀ c ∈ cs.getLast?, isBlank c = false

instance (cs : List Char) : Decidable (Trimmed cs) :=
  decidable_of_iff
    ((cs.head?.all fun c => !isBlank c) && cs.getLast?.all fun c => !isBlank c) <| by
      simp [Trimmed, Option.all_eq_true]

variable {cs w : List Char}

/-- White space in front is dropped. -/
theorem dropWhile_isBlank_append (hw : AllBlank w) (cs : List Char) :
    (w ++ cs).dropWhile isBlank = cs.dropWhile isBlank :=
  List.dropWhile_append_of_pos hw

/-- Where no white space stands in front, nothing is dropped. -/
theorem dropWhile_isBlank_of_head (h : ∀ c ∈ cs.head?, isBlank c = false) :
    cs.dropWhile isBlank = cs := by
  cases cs with
  | nil => rfl
  | cons c cs => exact List.dropWhile_cons_of_neg (by simp [h c rfl])

/-- What is dropped in front is white space, and no more of it follows. -/
theorem exists_dropWhile_isBlank (cs : List Char) :
    ∃ w, AllBlank w ∧ cs = w ++ cs.dropWhile isBlank ∧
      ∀ c ∈ (cs.dropWhile isBlank).head?, isBlank c = false := by
  refine ⟨cs.takeWhile isBlank, fun c hc => List.mem_takeWhile_imp hc,
    (List.takeWhile_append_dropWhile ..).symm, fun c hc => ?_⟩
  have hfirst := List.head?_dropWhile_not isBlank cs
  rw [Option.mem_def.mp hc] at hfirst
  simpa using hfirst

/-- **What trimming leaves** is trimmed, and there is nothing but white space around it. -/
theorem trimChars_eq_iff {core : List Char} :
    trimChars cs = core ↔
      Trimmed core ∧ ∃ w w', AllBlank w ∧ AllBlank w' ∧ cs = w ++ (core ++ w') := by
  constructor
  · rintro rfl
    obtain ⟨w, hw, hcs, hhead⟩ := exists_dropWhile_isBlank cs
    obtain ⟨w', hw', hrev, hlast⟩ := exists_dropWhile_isBlank (cs.dropWhile isBlank).reverse
    have hback : cs.dropWhile isBlank = trimChars cs ++ w'.reverse := by
      rw [trimChars, ← List.reverse_append, ← hrev, List.reverse_reverse]
    refine ⟨⟨fun c hc => ?_, fun c hc => ?_⟩, w, w'.reverse, hw, fun c hc => ?_, ?_⟩
    · refine hhead c ?_
      rw [hback, List.head?_append, Option.mem_def.mp hc]
      rfl
    · refine hlast c ?_
      rw [trimChars, List.getLast?_reverse] at hc
      exact hc
    · exact hw' c (List.mem_reverse.mp hc)
    · rw [← hback]
      exact hcs
  · rintro ⟨⟨hhead, hlast⟩, w, w', hw, hw', rfl⟩
    have hw'rev : AllBlank w'.reverse := fun c hc => hw' c (List.mem_reverse.mp hc)
    rw [trimChars, dropWhile_isBlank_append hw]
    cases core with
    | nil =>
      have hnil : w'.dropWhile isBlank = [] := List.dropWhile_eq_nil_iff.mpr hw'
      rw [List.nil_append, hnil]
      rfl
    | cons c core =>
      have hdrop : (c :: core ++ w').dropWhile isBlank = c :: core ++ w' :=
        dropWhile_isBlank_of_head fun d hd => hhead d hd
      rw [hdrop, List.reverse_append, dropWhile_isBlank_append hw'rev, dropWhile_isBlank_of_head,
        List.reverse_reverse]
      rwa [List.head?_reverse]

theorem trimmed_trimChars (cs : List Char) : Trimmed (trimChars cs) :=
  (trimChars_eq_iff.mp rfl).1

/-- What is trimmed already stays as it is. -/
theorem Trimmed.trimChars_eq (h : Trimmed cs) : trimChars cs = cs :=
  trimChars_eq_iff.mpr ⟨h, [], [], allBlank_nil, allBlank_nil, by rw [List.nil_append, List.append_nil]⟩

/-- Trimming takes nothing but characters away. -/
theorem mem_of_mem_trimChars {c : Char} (h : c ∈ trimChars cs) : c ∈ cs := by
  obtain ⟨-, w, w', -, -, hcs⟩ := trimChars_eq_iff.mp (rfl : trimChars cs = trimChars cs)
  rw [hcs]
  exact List.mem_append_right _ (List.mem_append_left _ h)

end DataContract.Text
