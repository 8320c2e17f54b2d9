import DataContract.Proofs.Text.Split
import DataContract.Proofs.Text.Trim

/-!
# Words

The words of a text are its maximal runs of characters that are not white space.  `Runs` says so without
cutting anything: white space, a run up to the next white space or to the end, and so on.

Everything about the words of a text follows from one equation: white space cuts the words of a text
into those before and those behind it (`wordChars_append_cons`).  So `runs_iff` says that cutting a text
finds its runs and nothing else, and `wordsOf_intercalate` that words joined by single spaces are found
again.
-/

namespace DataContract.Text

/-- There are some characters, and none of them is white space. -/
structure Unbroken (w : List Char) : Prop where
  ne_nil : w ≠ []
  solid : ∀ c ∈ w, isBlank c = false

instance (w : List Char) : Decidable (Unbroken w) :=
  decidable_of_iff (w ≠ [] ∧ (w.all fun c => !isBlank c) = true) <| by
    rw [List.all_eq_true]
    simp only [Bool.not_eq_true']
    exact ⟨fun h => ⟨h.1, h.2⟩, fun h => ⟨h.ne_nil, h.solid⟩⟩

/-- The maximal runs of characters that are not white space in a text, in order.  A run ends where white
space follows or nothing. -/
inductive Runs : List Char → List (List Char) → Prop
  | blank {w : List Char} (hw : AllBlank w) : Runs w []
  | run {w run rest : List Char} {runs : List (List Char)} (hw : AllBlank w) (hrun : Unbroken run)
    (hend : ∀ c ∈ rest.head?, isBlank c = true) (h : Runs rest runs) :
    Runs (w ++ (run ++ rest)) (run :: runs)

variable {cs rest w : List Char} {ws : List (List Char)}

/-- **White space cuts the words** of a text into those before and those behind it. -/
theorem wordChars_append_cons {c : Char} (hc : isBlank c = true) (cs rest : List Char) :
    wordChars (cs ++ c :: rest) = wordChars cs ++ wordChars rest := by
  simp only [wordChars, splitWhere_eq_splitOnP, List.splitOnP_append_cons cs rest hc,
    List.filter_append]

theorem wordChars_blank_append (hw : AllBlank w) (cs : List Char) :
    wordChars (w ++ cs) = wordChars cs := by
  induction w with
  | nil => rfl
  | cons c w ih =>
    obtain ⟨hc, hw⟩ := List.forall_mem_cons.mp hw
    rw [List.cons_append, ← List.nil_append (c :: (w ++ cs)), wordChars_append_cons hc, ih hw]
    rfl

theorem Unbroken.wordChars_eq (h : Unbroken w) : wordChars w = [w] := by
  rw [wordChars, splitWhere_of_forall h.solid]
  simp [h.ne_nil]

/-- A word that ends is the first of the words. -/
theorem Unbroken.wordChars_append (h : Unbroken w) (hend : ∀ c ∈ rest.head?, isBlank c = true) :
    wordChars (w ++ rest) = w :: wordChars rest := by
  cases rest with
  | nil =>
    rw [List.append_nil, h.wordChars_eq]
    rfl
  | cons c rest =>
    have hc : isBlank c = true := hend c rfl
    rw [wordChars_append_cons hc, h.wordChars_eq, ← List.singleton_append (l := rest),
      wordChars_blank_append (List.forall_mem_singleton.mpr hc)]
    rfl

theorem Runs.wordChars_eq (h : Runs cs ws) : wordChars cs = ws := by
  induction h with
  | @blank w hw =>
    rw [← List.append_nil w, wordChars_blank_append hw]
    rfl
  | run hw hrun hend _ ih => rw [wordChars_blank_append hw, hrun.wordChars_append hend, ih]

/-- White space in front belongs to no run. -/
theorem Runs.blank_append (hw : AllBlank w) (h : Runs cs ws) : Runs (w ++ cs) ws := by
  cases h with
  | blank hw' => exact .blank fun c hc => (List.mem_append.mp hc).elim (hw c) (hw' c)
  | run hw' hrun hend h =>
    rw [← List.append_assoc]
    exact .run (fun c hc => (List.mem_append.mp hc).elim (hw c) (hw' c)) hrun hend h

/-- Every text has its runs. -/
theorem exists_runs (cs : List Char) : ∃ ws, Runs cs ws := by
  induction cs with
  | nil => exact ⟨[], .blank allBlank_nil⟩
  | cons c cs ih =>
    obtain ⟨ws, h⟩ := ih
    cases hc : isBlank c with
    | true => exact ⟨ws, h.blank_append (List.forall_mem_singleton.mpr hc)⟩
    | false =>
      have hword : Unbroken [c] := ⟨by simp, List.forall_mem_singleton.mpr hc⟩
      -- The character goes on with the first run if that begins at once, or is a run of its own.
      cases h with
      | blank hw =>
        exact ⟨[[c]], .run allBlank_nil hword (fun d hd => hw d (List.mem_of_mem_head? hd)) (.blank hw)⟩
      | @run w run rest runs hw hrun hend h =>
        cases w with
        | nil =>
          have hlonger : Unbroken (c :: run) :=
            ⟨List.cons_ne_nil c run, List.forall_mem_cons.mpr ⟨hc, hrun.solid⟩⟩
          exact ⟨(c :: run) :: runs, .run allBlank_nil hlonger hend h⟩
        | cons d w =>
          have hrest : Runs (d :: w ++ (run ++ rest)) (run :: runs) := .run hw hrun hend h
          refine ⟨[c] :: run :: runs, .run allBlank_nil hword ?_ hrest⟩
          rintro _ ⟨⟩
          exact hw d (List.mem_cons_self ..)

/-- **The words of a text are its runs.** -/
theorem runs_iff : Runs cs ws ↔ wordChars cs = ws := by
  refine ⟨Runs.wordChars_eq, ?_⟩
  rintro rfl
  obtain ⟨ws, h⟩ := exists_runs cs
  rwa [h.wordChars_eq]

theorem toList_wordsOf (s : String) : (wordsOf s).map String.toList = wordChars s.toList := by
  rw [wordsOf, List.map_map]
  exact List.map_id'' (fun _ => String.toList_ofList) _

/-- **Words joined by single spaces are found again.** -/
theorem wordsOf_intercalate {words : List String} (h : ∀ w ∈ words, Unbroken w.toList) :
    wordsOf (String.intercalate " " words) = words := by
  have hruns : Runs (String.intercalate " " words).toList (words.map String.toList) := by
    induction words with
    | nil => exact .blank allBlank_nil
    | cons w words ih =>
      obtain ⟨hw, hwords⟩ := List.forall_mem_cons.mp h
      cases words with
      | nil =>
        rw [String.intercalate_singleton, ← List.append_nil w.toList]
        exact .run allBlank_nil hw (fun _ h => nomatch h) (.blank allBlank_nil)
      | cons w' words =>
        rw [String.intercalate_cons_cons, String.toList_append, String.toList_append,
          List.append_assoc]
        refine .run allBlank_nil hw ?_ ((ih hwords).blank_append (w := [' ']) (by decide))
        rintro _ ⟨⟩
        decide
  rw [wordsOf, hruns.wordChars_eq, List.map_map]
  exact List.map_id'' (fun _ => String.ofList_toList) words

end DataContract.Text
