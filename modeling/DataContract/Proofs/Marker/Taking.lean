import DataContract.Marker.Item

/-!
# What a parser takes

A parser is run on the tokens that are left and on the group, if any, that has been left with tokens
over.  The parsers here never leave any over, so it is enough to say which tokens they start from,
what they return, and which tokens they leave (`Takes`).  Parsers are composed as their calls are:
`Takes.bind` for what is done in turn, and `takes_repeatFor_again` with `takes_repeatFor_done` for what
is repeated.
-/

namespace DataContract.Marker

open DataContract.Marker.Parser

variable {α β σ : Type}

/-- From these tokens a parser takes `a` and leaves `behind`. -/
def Takes (p : Parser α) (ts : List Token) (a : α) (behind : List Token) : Prop :=
  ∀ l, p ⟨ts, l⟩ = .ok (a, ⟨behind, l⟩)

variable {p : Parser α} {ts mid behind : List Token} {a : α} {b : β}

theorem Takes.bind {f : α → Parser β} (hp : Takes p ts a mid) (hf : Takes (f a) mid b behind) :
    Takes (p >>= f) ts b behind := by
  intro l
  show Except.bind (p ⟨ts, l⟩) _ = _
  rw [hp l]
  exact hf l

theorem Takes.run (h : Takes p ts a []) : Parser.run p ts = .ok a := by
  rw [Parser.run, h none]

theorem takes_pure (a : α) (ts : List Token) : Takes (pure a) ts a ts := fun _ => rfl

theorem takes_rest (ts : List Token) : Takes Parser.rest ts ts ts := fun _ => rfl

theorem takes_looking (q : List Token → Bool) (ts : List Token) :
    Takes (looking q) ts (q ts) ts := fun _ => rfl

theorem takes_drop (n : Nat) (ts : List Token) : Takes (drop n) ts () (ts.drop n) := fun _ => rfl

theorem takes_continueAt (ts behind : List Token) : Takes (continueAt behind) ts () behind :=
  fun _ => rfl

/-! ## Single tokens -/

/-- A mark that is there is taken. -/
theorem takes_mark (op : String) (h : startsMark op.toList ts = true) :
    Takes (mark op) ts () (ts.drop op.length) := by
  refine (takes_looking _ ts).bind ?_
  rw [if_pos h]
  exact takes_drop _ _

theorem takes_no_mark (op : String) (h : startsMark op.toList ts = false) :
    Takes (mark? op) ts false ts := by
  refine (takes_looking _ ts).bind ?_
  rw [h, if_neg Bool.false_ne_true]
  exact takes_pure _ _

theorem takes_anyIdent (name : String) (raw : Bool) (ts : List Token) :
    Takes anyIdent (.ident name raw :: ts) (spelling name raw) ts :=
  (takes_rest _).bind ((takes_drop 1 _).bind (takes_pure _ _))

/-- What a parser takes up to the end of a group, it takes inside of the group. -/
theorem takes_inside {d : Delimiter} {inner : List Token} (h : Takes p inner a []) :
    Takes (inside d p) (.group d inner :: behind) a behind := by
  intro l
  rw [inside]
  dsimp only
  rw [if_pos rfl, h l]
  cases l <;> rfl

/-! ## Repetition -/

variable {step : σ → Parser (Round σ α)} {s s' : σ}

theorem takes_repeatFor_done (h : Takes (step s) ts (.done a) behind) (n : Nat) :
    Takes (repeatFor step (n + 1) s) ts a behind :=
  h.bind (takes_pure _ _)

theorem takes_repeatFor_again {n : Nat} (h : Takes (step s) ts (.again s') mid)
    (hrest : Takes (repeatFor step n s') mid a behind) :
    Takes (repeatFor step (n + 1) s) ts a behind :=
  h.bind hrest

theorem takes_repeating_done (h : Takes (step s) ts (.done a) behind) :
    Takes (repeating step s) ts a behind :=
  (takes_rest _).bind (takes_repeatFor_done h _)

/-! ## Lists -/

/-- One round of a list separated by commas. -/
def commaRound (p : Parser α) (done : List α) : Parser (Round (List α) (List α)) := do
  if (← Parser.rest).isEmpty then return .done done.reverse
  let a ← p
  if (← Parser.rest).isEmpty then return .done (a :: done).reverse
  mark ","
  return .again (a :: done)

theorem commaList_eq (p : Parser α) : commaList p = repeating (commaRound p) [] := rfl

/-- A parser takes the tokens between commas one by one. -/
inductive Separated (p : Parser α) : List Token → List α → Prop
  | last {ts : List Token} {a : α} (hts : ts ≠ []) (h : Takes p ts a []) : Separated p ts [a]
  | more {ts behind : List Token} {a : α} {as : List α} {joint : Bool}
    (hlength : behind.length < ts.length) (h : Takes p ts a (.punct ',' joint :: behind))
    (hrest : Separated p behind as) : Separated p ts (a :: as)

theorem takes_commaRound_last (hts : ts ≠ []) (h : Takes p ts a []) (done : List α) :
    Takes (commaRound p done) ts (.done (a :: done).reverse) [] := by
  refine (takes_rest ts).bind ?_
  rw [if_neg (by simpa using hts)]
  exact h.bind ((takes_rest []).bind (takes_pure _ _))

theorem takes_commaRound_more {joint : Bool} (hts : ts ≠ [])
    (h : Takes p ts a (.punct ',' joint :: behind)) (done : List α) :
    Takes (commaRound p done) ts (.again (a :: done)) behind := by
  refine (takes_rest ts).bind ?_
  rw [if_neg (by simpa using hts)]
  exact h.bind ((takes_rest _).bind ((takes_mark "," rfl).bind (takes_pure _ _)))

/-- The rounds are as many as the items, and there is at least one token for each. -/
theorem Separated.takes_rounds {as : List α} (h : Separated p ts as) (done : List α) {n : Nat}
    (hn : ts.length < n) :
    Takes (repeatFor (commaRound p) n done) ts (done.reverse ++ as) [] := by
  induction h generalizing done n with
  | @last ts a hts h =>
    obtain ⟨n, rfl⟩ := Nat.exists_eq_add_one_of_ne_zero (Nat.ne_zero_of_lt hn)
    rw [← List.reverse_cons]
    exact takes_repeatFor_done (takes_commaRound_last hts h done) n
  | @more ts behind a as joint hlength h hrest ih =>
    obtain ⟨n, rfl⟩ := Nat.exists_eq_add_one_of_ne_zero (Nat.ne_zero_of_lt hn)
    have hts : ts ≠ [] := List.ne_nil_of_length_pos (Nat.zero_lt_of_lt hlength)
    rw [List.append_cons, ← List.reverse_cons]
    exact takes_repeatFor_again (takes_commaRound_more hts h done) (ih (a :: done) (by omega))

/-- **A list separated by commas is taken** if its items are. -/
theorem Separated.takes_commaList {as : List α} (h : Separated p ts as) :
    Takes (commaList p) ts as [] := by
  rw [commaList_eq]
  exact (takes_rest ts).bind (h.takes_rounds [] (by omega))

end DataContract.Marker
