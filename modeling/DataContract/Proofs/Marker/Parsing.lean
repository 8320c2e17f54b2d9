import DataContract.Proofs.Marker.Spelling
import DataContract.Proofs.Marker.Taking
import DataContract.Marker.Binding

/-!
# From tokens to items

The tokens of a list of arguments are parsed as one item for each argument.  The item has the
argument's name as it is spelled, and what has been read for its value (`ReadsAs`).  That is the
literal for the value, with one exception: a minus sign belongs to a literal only at the very end of
the list.  Before a comma a value is an expression, and there a negative integer is an operator in
front of another integer.

* `ValueTokens.takes_value` --- values, at the end and before a comma.
* `ArgumentTokens.takes_item` --- an argument, whose name may also be that of a truth value.
* `ListTokens.listOf` --- the list.
-/

namespace DataContract.Marker

open Declaration DataContract.Marker.Parser

variable {g : Grammar} {struct joint : Bool} {ts behind : List Token} {l : Literal}

/-- What may stand behind a value: nothing, or a comma. -/
def EndsValue (ts : List Token) : Prop := ts = [] ∨ ∃ joint behind, ts = .punct ',' joint :: behind

theorem endsValue_comma (joint : Bool) (behind : List Token) :
    EndsValue (.punct ',' joint :: behind) :=
  Or.inr ⟨joint, behind, rfl⟩

namespace Grammar

/-! ## Expressions -/

theorem takes_no_attributes (h : startsMark ['#'] ts = false) : Takes g.attributes ts false ts := by
  refine takes_repeating_done ((takes_looking _ ts).bind ?_)
  rw [h, if_neg Bool.false_ne_true]
  exact takes_pure _ _

theorem takes_atom (operand : Parser Expr) (h : literalAt? ts = some (l, behind)) :
    Takes (g.atom struct operand) ts (.literal l) behind := by
  refine (takes_rest ts).bind ?_
  rw [h]
  exact (takes_continueAt ts behind).bind (takes_pure _ _)

/-- One round of taking trailers. -/
def trailerRound (g : Grammar) (e : Expr) : Parser (Round Expr Expr) := do
  let ts ← rest
  if startsWith (Token.isGroup .parenthesis) ts then
    return .again (.call e (← g.callArguments))
  else if startsPoint ts && !e.isRange then return .again (← g.pointTrailer)
  else if startsWith (Token.isGroup .bracket) ts then
    let _ ← inside .bracket (g.expression true)
    return .again (.other .index false)
  else if startsMark ['?'] ts && !e.isRange then
    drop 1
    return .again (.other .trying false)
  else return .done e

theorem trailers_eq (e : Expr) : g.trailers e = repeating g.trailerRound e := rfl

theorem takes_trailerRound_end (e : Expr) (hends : EndsValue ts) :
    Takes (g.trailerRound e) ts (.done e) ts := by
  rcases hends with rfl | ⟨joint, behind, rfl⟩ <;> exact (takes_rest _).bind (takes_pure _ _)

/-- There are no trailers where a value ends. -/
theorem takes_no_trailers (e : Expr) (hends : EndsValue ts) : Takes (g.trailers e) ts e ts := by
  rw [trailers_eq]
  exact takes_repeating_done (takes_trailerRound_end e hends)

/-- There is no operator where a value ends. -/
theorem takes_climb_end (e : Expr) (hends : EndsValue ts) :
    Takes (g.climbRule e struct .jump) ts e ts := by
  rcases hends with rfl | ⟨joint, behind, rfl⟩ <;>
    refine takes_repeating_done ((takes_rest _).bind ?_) <;> split <;> exact takes_pure _ _

/-- An operand that begins with no operator and no hash is an atom with its trailers. -/
theorem takes_unary {mid : List Token} {e e' : Expr}
    (hmark : ∀ c ∈ ['#', '&', '*', '!', '-'], startsMark [c] ts = false)
    (hatom : Takes (g.atom struct (g.rightOperand struct .range (g.unary struct))) ts e mid)
    (htrailers : Takes (g.trailers e) mid e' behind) : Takes (g.unaryRule struct) ts e' behind := by
  refine (takes_no_attributes (hmark '#' (by decide))).bind ((takes_rest ts).bind ?_)
  rw [if_neg (by simp [hmark]), if_neg (by simp [hmark])]
  exact hatom.bind (htrailers.bind (takes_pure _ _))

theorem takes_unary_literal (h : literalAt? ts = some (l, .punct ',' joint :: behind))
    (hmark : ∀ c ∈ ['#', '&', '*', '!', '-'], startsMark [c] ts = false) :
    Takes (g.unaryRule struct) ts (.literal l) (.punct ',' joint :: behind) :=
  takes_unary hmark (takes_atom _ h) (takes_no_trailers _ (endsValue_comma joint behind))

theorem takes_unary_minus {e : Expr} (h : Takes (g.unary struct) ts e behind) :
    Takes (g.unaryRule struct) (.punct '-' joint :: ts) (.other .unary e.endsWithBrace) behind := by
  refine (takes_no_attributes rfl).bind ((takes_rest _).bind ?_)
  rw [if_neg (by simp [startsMark]), if_pos (by simp [startsMark])]
  exact (takes_drop 1 _).bind (h.bind (takes_pure _ _))

end Grammar

/-! ## Values -/

/-- What is read for a value: the literal for it, or if it is a negative integer that something
follows, an operator in front of another one. -/
inductive ReadsAs : Constant → Expr → Prop
  | literal {value : Constant} {l : Literal} (h : literalOf? value = some l) :
    ReadsAs value (.literal l)
  | negative (n : Int64) : ReadsAs (.integer n) (.other .unary false)

/-- Only an integer may be read as anything but the literal for it. -/
theorem ReadsAs.eq_literal {value : Constant} {e : Expr} (h : ReadsAs value e)
    (hl : literalOf? value = some l) (hvalue : ∀ n, value ≠ .integer n) : e = .literal l := by
  cases h with
  | literal h => rw [Option.some.inj (h.symm.trans hl)]
  | negative n => exact absurd rfl (hvalue n)

/-- At the end a value is one literal, and so is any but a negative integer. -/
theorem ValueTokens.literalAt? {value : Constant} {vs : List Token} (h : ValueTokens value vs) :
    ∃ l, literalOf? value = some l ∧ ∀ ts, literalAt? (vs ++ ts) = some (l, ts) := by
  cases h with
  | boolean b => exact ⟨_, rfl, fun ts => by cases b <;> rfl⟩
  | string s => exact ⟨_, rfl, fun ts => rfl⟩
  | @integer n m h => exact ⟨_, by rw [literalOf?, h], fun ts => rfl⟩
  | @negative n m h joint => exact ⟨_, by rw [literalOf?, h], fun ts => rfl⟩

/-- Before a comma a value is an expression. -/
theorem ValueTokens.takes_expression {value : Constant} {vs : List Token} (h : ValueTokens value vs)
    (struct : Bool) (n : Nat) (joint : Bool) (behind : List Token) :
    ∃ e, ReadsAs value e ∧ Takes ((Grammar.ofDepth (n + 2)).expression struct)
      (vs ++ .punct ',' joint :: behind) e (.punct ',' joint :: behind) := by
  have hunary : ∃ e, ReadsAs value e ∧ Takes ((Grammar.ofDepth (n + 1)).unaryRule struct)
      (vs ++ .punct ',' joint :: behind) e (.punct ',' joint :: behind) := by
    obtain ⟨l, hl, hat⟩ := h.literalAt?
    cases h with
    | boolean b =>
      exact ⟨_, .literal hl, Grammar.takes_unary_literal (hat _) (by simp [startsMark])⟩
    | string s =>
      exact ⟨_, .literal hl, Grammar.takes_unary_literal (hat _) (by simp [startsMark])⟩
    | integer h =>
      exact ⟨_, .literal hl, Grammar.takes_unary_literal (hat _) (by simp [startsMark])⟩
    | @negative k m h sign =>
      -- The sign is an operator here, and the digits are its operand.
      have hdigits : Takes ((Grammar.ofDepth n).unaryRule struct)
          (.literal (.integer m "") :: .punct ',' joint :: behind) (.literal (.integer m ""))
          (.punct ',' joint :: behind) :=
        Grammar.takes_unary_literal rfl (by simp [startsMark])
      exact ⟨_, .negative k, Grammar.takes_unary_minus (g := .ofDepth (n + 1)) hdigits⟩
  obtain ⟨e, he, htakes⟩ := hunary
  exact ⟨e, he, htakes.bind (Grammar.takes_climb_end e (endsValue_comma joint behind))⟩

theorem ValueTokens.takes_value {value : Constant} {vs : List Token} (h : ValueTokens value vs)
    (n : Nat) (joint : Bool) (hends : EndsValue behind) :
    ∃ e, ReadsAs value e ∧ Takes (Grammar.ofDepth (n + 2)).value
      (.punct '=' joint :: (vs ++ behind)) e behind := by
  obtain ⟨l, hl, hat⟩ := h.literalAt?
  have hequals : Takes (mark "=") (.punct '=' joint :: (vs ++ behind)) () (vs ++ behind) :=
    takes_mark "=" rfl
  rcases hends with rfl | ⟨joint', behind, rfl⟩
  · -- At the end the literal is taken as it is, with its sign.
    refine ⟨_, .literal hl, hequals.bind ((takes_rest _).bind ?_)⟩
    rw [hat]
    exact (takes_continueAt _ _).bind (takes_pure _ _)
  · -- A literal that something follows is left to the rule for expressions.
    obtain ⟨e, he, htakes⟩ := h.takes_expression true n joint' behind
    refine ⟨e, he, hequals.bind ((takes_rest _).bind ?_)⟩
    rw [hat]
    dsimp only
    rw [if_neg]
    · exact htakes
    · cases h <;> simp [startsMark]

/-! ## Items -/

/-- An item is what is read for an argument. -/
inductive ReadsArgument : NamedArgument → Item → Prop
  | intro {name : String} {value : Constant} {n : String} {raw : Bool} {e : Expr}
    (hname : Lexer.anyIdent? name.toList = some (.ident n raw, [])) (hvalue : ReadsAs value e) :
    ReadsArgument ⟨name, value⟩ (.named (spelling n raw) (.value e))

theorem takes_nameParts (n : String) (raw : Bool) (h : startsMark [':', ':'] ts = false) :
    Takes Item.nameParts (.ident n raw :: ts) [spelling n raw] ts :=
  takes_repeating_done ((takes_looking _ _).bind ((takes_anyIdent n raw _).bind
    ((takes_no_mark "::" h).bind (takes_pure _ _))))

theorem takes_body {e : Expr} (h : Takes g.value (.punct '=' joint :: ts) e behind) :
    Takes (Item.body g) (.punct '=' joint :: ts) (.value e) behind :=
  (takes_rest _).bind (h.bind (takes_pure _ _))

theorem takes_namedItem {e : Expr} (n : String) (raw : Bool)
    (h : Takes g.value (.punct '=' joint :: ts) e behind) :
    Takes (Item.namedItem g) (.ident n raw :: .punct '=' joint :: ts)
      (.named (spelling n raw) (.value e)) behind :=
  (takes_nameParts n raw rfl).bind ((takes_body h).bind (takes_pure _ _))

/-- A literal that begins with an identifier is a truth value. -/
theorem literalAt?_ident (n : String) (raw : Bool) (ts : List Token) :
    literalAt? (.ident n raw :: ts) = none ∨
      ∃ b, literalAt? (.ident n raw :: ts) = some (.boolean b, ts) := by
  rw [literalAt?.eq_def]
  split
  case h_1 heq => cases heq
  case h_2 heq =>
    cases heq
    exact Or.inr ⟨true, rfl⟩
  case h_3 heq =>
    cases heq
    exact Or.inr ⟨false, rfl⟩
  case h_4 heq => cases heq
  case h_5 => exact Or.inl rfl

/-- A name with an equals sign behind it begins an item, even if it is a truth value. -/
theorem takes_item {e : Expr} (n : String) (raw : Bool)
    (h : Takes g.value (.punct '=' joint :: ts) e behind) :
    Takes (Item.item g) (.ident n raw :: .punct '=' joint :: ts)
      (.named (spelling n raw) (.value e)) behind := by
  refine (takes_rest _).bind ?_
  obtain hnone | ⟨b, hb⟩ := literalAt?_ident n raw (.punct '=' joint :: ts)
  · rw [hnone]
    exact takes_namedItem n raw h
  · rw [hb]
    exact takes_namedItem n raw h

/-- The tokens of an argument are taken as one item. -/
theorem ArgumentTokens.takes_item {a : NamedArgument} (h : ArgumentTokens a ts) (n : Nat)
    (hends : EndsValue behind) :
    ∃ i, ReadsArgument a i ∧ Takes (Item.item (.ofDepth (n + 2))) (ts ++ behind) i behind := by
  obtain @⟨name, value, t, vs, hname, joint, hvalue⟩ := h
  obtain ⟨e, he, htakes⟩ := hvalue.takes_value n joint hends
  obtain ⟨-, rfl⟩ | ⟨word, -, -, -, rfl⟩ := Lexer.anyIdent?_eq_some_nil hname
  · exact ⟨_, .intro hname he, Marker.takes_item _ _ htakes⟩
  · exact ⟨_, .intro hname he, Marker.takes_item _ _ htakes⟩

/-! ## Lists -/

theorem ListTokens.separated {as : List NamedArgument} (h : ListTokens as ts) (n : Nat) :
    ∃ items, List.Forall₂ ReadsArgument as items ∧
      Separated (Item.item (.ofDepth (n + 2))) ts items := by
  induction h with
  | @one a ts h =>
    obtain ⟨i, hi, htakes⟩ := h.takes_item n (Or.inl rfl)
    rw [List.append_nil] at htakes
    refine ⟨[i], .cons hi .nil, .last ?_ htakes⟩
    cases h
    exact List.cons_ne_nil _ _
  | @more a as ts rest h joint hrest ih =>
    obtain ⟨i, hi, htakes⟩ := h.takes_item n (endsValue_comma joint rest)
    obtain ⟨items, hitems, hseparated⟩ := ih
    refine ⟨i :: items, .cons hi hitems, .more ?_ htakes hseparated⟩
    rw [List.length_append, List.length_cons]
    omega

/-- **The tokens of a list are parsed** as an item for each argument. -/
theorem ListTokens.listOf {as : List NamedArgument} (h : ListTokens as ts) :
    ∃ items, List.Forall₂ ReadsArgument as items ∧ Item.listOf ts = .ok items := by
  obtain ⟨items, hitems, hseparated⟩ := h.separated (2 * sizeOfTokens ts)
  exact ⟨items, hitems, hseparated.takes_commaList.run⟩

end DataContract.Marker
