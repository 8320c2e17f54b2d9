import DataContract.Text.Split

/-!
# Cutting at a separator

A separator that does not occur in what stands before it shows where that ends.  So texts that are
joined can be taken apart again, as long as their end is marked by something else than a separator.
-/

namespace DataContract.Text

variable {α : Type}

/-- A stretch without items of some sort is determined by what stops it, the first such item, and so
are this item and what stands behind it. -/
theorem split_at_stop {p : α → Prop} {x y : α} {u v s t : List α} (hu : ∀ c ∈ u, ¬p c)
    (hv : ∀ c ∈ v, ¬p c) (hx : p x) (hy : p y) (h : u ++ x :: s = v ++ y :: t) :
    u = v ∧ x = y ∧ s = t := by
  induction u generalizing v with
  | nil =>
    cases v with
    | nil => exact ⟨rfl, List.head_eq_of_cons_eq h, List.tail_eq_of_cons_eq h⟩
    | cons d v => exact absurd (List.head_eq_of_cons_eq h ▸ hx) (hv d (List.mem_cons_self ..))
  | cons c u ih =>
    cases v with
    | nil => exact absurd ((List.head_eq_of_cons_eq h).symm ▸ hy) (hu c (List.mem_cons_self ..))
    | cons d v =>
      obtain ⟨rfl, hstop, hrest⟩ := ih (fun c hc => hu c (List.mem_cons_of_mem _ hc))
        (fun c hc => hv c (List.mem_cons_of_mem _ hc)) (List.tail_eq_of_cons_eq h)
      rw [List.head_eq_of_cons_eq h]
      exact ⟨rfl, hstop, hrest⟩

/-- What stands before the first occurrence of an item is determined, and so is what stands behind
it. -/
theorem split_at_first {x : α} {u v s t : List α} (hu : x ∉ u) (hv : x ∉ v)
    (h : u ++ x :: s = v ++ x :: t) : u = v ∧ s = t := by
  obtain ⟨huv, -, hst⟩ := split_at_stop (p := (· = x)) (fun _ hc hcx => hu (hcx ▸ hc))
    (fun _ hc hcx => hv (hcx ▸ hc)) rfl rfl h
  exact ⟨huv, hst⟩

/-- What stands behind the last occurrence of an item is determined, and so is what stands before
it. -/
theorem split_at_last {x : α} {u v s t : List α} (hs : x ∉ s) (ht : x ∉ t)
    (h : u ++ x :: s = v ++ x :: t) : u = v ∧ s = t := by
  have hrev : s.reverse ++ x :: u.reverse = t.reverse ++ x :: v.reverse := by
    have := congrArg List.reverse h
    simpa using this
  obtain ⟨hst, huv⟩ := split_at_first (fun hmem => hs (List.mem_reverse.mp hmem))
    (fun hmem => ht (List.mem_reverse.mp hmem)) hrev
  exact ⟨List.reverse_inj.mp huv, List.reverse_inj.mp hst⟩

/-- Texts that are joined are determined, and so is what stands behind them, if what separates them
and what stops the last are told apart by characters that occur in none of them. -/
theorem joined_inj {p : Char → Prop} {x y : Char} {separator : String} {w : List Char}
    (hseparator : separator.toList = x :: w) (hx : p x) (hy : p y) (hxy : x ≠ y)
    {us vs : List String} (hus : ∀ u ∈ us, ∀ c ∈ u.toList, ¬p c)
    (hvs : ∀ v ∈ vs, ∀ c ∈ v.toList, ¬p c) (hune : us ≠ []) (hvne : vs ≠ []) {s t : List Char}
    (h : (String.intercalate separator us).toList ++ y :: s =
      (String.intercalate separator vs).toList ++ y :: t) : us = vs ∧ s = t := by
  have hmore : ∀ (u : String) (us : List String), us ≠ [] → ∀ s : List Char,
      (String.intercalate separator (u :: us)).toList ++ y :: s =
        u.toList ++ x :: (w ++ ((String.intercalate separator us).toList ++ y :: s)) := by
    intro u us hus s
    rw [String.intercalate_cons_of_ne_nil hus, String.toList_append, String.toList_append, hseparator]
    simp only [List.append_assoc, List.cons_append]
  induction us generalizing vs with
  | nil => exact absurd rfl hune
  | cons u us ih =>
    cases vs with
    | nil => exact absurd rfl hvne
    | cons v vs =>
      have hu := hus u (List.mem_cons_self ..)
      have hv := hvs v (List.mem_cons_self ..)
      by_cases husnil : us = [] <;> by_cases hvsnil : vs = []
      · subst husnil hvsnil
        rw [String.intercalate_singleton, String.intercalate_singleton] at h
        obtain ⟨huv, -, hst⟩ := split_at_stop hu hv hy hy h
        exact ⟨congrArg (· :: []) (String.toList_inj.mp huv), hst⟩
      · rw [husnil, String.intercalate_singleton, hmore v vs hvsnil] at h
        exact absurd (split_at_stop hu hv hy hx h).2.1.symm hxy
      · rw [hvsnil, String.intercalate_singleton, hmore u us husnil] at h
        exact absurd (split_at_stop hu hv hx hy h).2.1 hxy
      · rw [hmore u us husnil, hmore v vs hvsnil] at h
        obtain ⟨huv, -, hrest⟩ := split_at_stop hu hv hx hx h
        obtain ⟨hpieces, hst⟩ := ih (fun u hu => hus u (List.mem_cons_of_mem _ hu))
          (fun v hv => hvs v (List.mem_cons_of_mem _ hv)) husnil hvsnil
          (List.append_cancel_left hrest)
        rw [String.toList_inj.mp huv, hpieces]
        exact ⟨rfl, hst⟩

/-- Cutting at separators is what `List.splitOnP` does. -/
theorem splitWhere_eq_splitOnP (p : Char → Bool) (cs : List Char) :
    splitWhere p cs = cs.splitOnP p := by
  induction cs with
  | nil => rfl
  | cons c cs ih =>
    rw [splitWhere_cons, List.splitOnP_cons_eq_if_modifyHead, ih]
    split
    · rfl
    · cases hpieces : cs.splitOnP p with
      | nil => exact absurd hpieces (List.splitOnP_ne_nil p cs)
      | cons piece pieces => rfl

/-- Pieces that are joined by a separator are what it is cut into. -/
theorem splitWhere_intercalate {x : Char} {pieces : List (List Char)} (hne : pieces ≠ [])
    (hpieces : ∀ piece ∈ pieces, x ∉ piece) :
    splitWhere (· == x) ([x].intercalate pieces) = pieces := by
  rw [splitWhere_eq_splitOnP, ← List.splitOn_eq_splitOnP, List.splitOn_intercalate x hpieces hne]

/-- A text without separators is a single piece. -/
theorem splitWhere_of_forall {p : Char → Bool} {cs : List Char} (h : ∀ c ∈ cs, p c = false) :
    splitWhere p cs = [cs] := by
  induction cs with
  | nil => rfl
  | cons c cs ih =>
    rw [splitWhere_cons, h c (List.mem_cons_self ..), if_neg Bool.false_ne_true,
      ih fun c hc => h c (List.mem_cons_of_mem _ hc)]
    rfl

/-- There is no separator in a piece. -/
theorem not_of_mem_splitWhere {p : Char → Bool} {cs piece : List Char}
    (h : piece ∈ splitWhere p cs) : ∀ c ∈ piece, p c = false := by
  induction cs generalizing piece with
  | nil =>
    rw [splitWhere_nil, List.mem_singleton] at h
    simp [h]
  | cons d cs ih =>
    rw [splitWhere_cons] at h
    cases hd : p d with
    | true =>
      rw [hd, if_pos rfl, List.mem_cons] at h
      rcases h with rfl | h
      · simp
      · exact ih h
    | false =>
      rw [hd, if_neg Bool.false_ne_true] at h
      cases hpieces : splitWhere p cs with
      | nil => exact absurd hpieces (splitWhere_ne_nil p cs)
      | cons first rest =>
        rw [hpieces] at h ih
        rcases List.mem_cons.mp h with rfl | h
        · have hfirst := ih (List.mem_cons_self ..)
          rw [List.forall_mem_cons]
          exact ⟨hd, hfirst⟩
        · exact ih (List.mem_cons_of_mem _ h)

end DataContract.Text
