import DataContract.Proofs.Marker.MemberSpelling
import DataContract.Proofs.Marker.Parsing

/-!
# From tokens to named members

The tokens of a member are parsed as an expression that the settings are taken from.

* `PointTokens.takes_rounds` --- an access is parsed from the left.  Every point makes a member of what
  has been read so far, so what is left in the end is the last name.
* `takes_atom_group`, `takes_call` --- a group is an expression in parentheses where an operand is due,
  and a call behind an operand.
* `MemberTokens.takes_expression` --- so the tokens of a member are an expression that stands for its
  name.  A pair of parentheses takes one level of the grammar, and there are as many levels as tokens.
-/

namespace DataContract.Marker

open DataContract.Marker.Parser

variable {g : Grammar} {struct joint : Bool} {ts behind : List Token} {name : String} {e : Expr}

/-! ## Words that are no names -/

theorem startsWord_ident (h : isName name false = true) {word : String} (hword : word ∈ keywords)
    (ts : List Token) : startsWord word (.ident name false :: ts) = false := by
  rw [isName, Bool.false_or, Bool.not_eq_true', List.contains_eq_mem, decide_eq_false_iff_not] at h
  have hne : name ≠ word := by
    rintro rfl
    exact h hword
  exact beq_eq_false_iff_ne.mpr hne

theorem literalAt?_name (h : isName name false = true) (ts : List Token) :
    literalAt? (.ident name false :: ts) = none := by
  have hne : ∀ word ∈ keywords, name ≠ word := by
    rintro word hword rfl
    exact absurd (startsWord_ident h hword ts) (by simp [startsWord, startsWith, Token.isWord])
  rw [literalAt?.eq_def]
  split
  case h_1 heq => cases heq
  case h_2 heq =>
    cases heq
    exact absurd rfl (hne "true" (by decide))
  case h_3 heq =>
    cases heq
    exact absurd rfl (hne "false" (by decide))
  case h_4 heq => cases heq
  case h_5 => rfl

namespace Grammar

/-- Nothing stands at the front that would make more of a name than a path of one segment. -/
structure EndsPath (ts : List Token) : Prop where
  colons : startsMark [':', ':'] ts = false
  invocation : startsMark ['!'] ts = false
  builtin : startsMark ['#'] ts = false
  brace : startsWith (Token.isGroup .brace) ts = false

theorem takes_ident (h : isName name false = true) (ts : List Token) :
    Takes ident (.ident name false :: ts) name ts := by
  refine (takes_rest _).bind ?_
  dsimp only
  rw [if_pos h]
  exact (takes_drop 1 _).bind (takes_pure _ _)

theorem takes_segment (h : isName name false = true) (hends : EndsPath ts) :
    Takes (g.segment true) (.ident name false :: ts) (name, .none) ts := by
  refine (takes_rest _).bind ?_
  rw [if_neg (by simp (disch := decide) [startsWord_ident h]),
    if_neg (by simp (disch := decide) [startsWord_ident h])]
  refine (takes_ident h ts).bind ((takes_rest ts).bind ?_)
  rw [hends.colons]
  exact takes_pure _ _

theorem takes_anyPath (h : isName name false = true) (hends : EndsPath ts) :
    Takes (g.anyPath true) (.ident name false :: ts) (false, false, ⟨.none, true, [name]⟩) ts := by
  refine (takes_no_mark "<" rfl).bind ?_
  rw [if_neg Bool.false_ne_true]
  have hmore : Takes (g.moreSegments true (Trail.start.add name .none)) ts
      ⟨.none, true, [name]⟩ ts := by
    refine takes_repeating_done ((takes_rest ts).bind ?_)
    rw [hends.colons]
    exact takes_pure _ _
  have htrail : Takes (g.pathTrail true) (.ident name false :: ts) (false, ⟨.none, true, [name]⟩) ts :=
    (takes_no_mark "::" rfl).bind ((takes_segment h hends).bind (hmore.bind (takes_pure _ _)))
  exact htrail.bind (takes_pure _ _)

theorem takes_named (h : isName name false = true) (hends : EndsPath ts) :
    Takes (g.named struct) (.ident name false :: ts) (.path ⟨false, true, [name]⟩) ts := by
  refine (takes_anyPath h hends).bind ((takes_rest ts).bind ?_)
  dsimp only
  rw [hends.invocation, hends.brace, Bool.and_false, Bool.false_and, if_neg Bool.false_ne_true,
    Bool.and_false, if_neg Bool.false_ne_true]
  exact takes_pure _ _

/-- A name alone is a path. -/
theorem takes_atom_name (operand : Parser Expr) (h : isName name false = true) (hends : EndsPath ts) :
    Takes (g.atom struct operand) (.ident name false :: ts) (.path ⟨false, true, [name]⟩) ts := by
  refine (takes_rest _).bind ?_
  rw [literalAt?_name h]
  dsimp only [List.tail_cons]
  rw [if_neg, if_neg, if_neg, if_neg, if_pos]
  · exact takes_named h hends
  · simp [startsPath, startsWith, Token.isIdent, h]
  · simp [startsBuiltin, hends.builtin]
  · simp (disch := decide) [startsClosure, startsWord_ident h, startsMark]
  · simp (disch := decide) [startsWord_ident h]
  · simp (disch := decide) [startsAsyncBlock, startsWord_ident h]

/-! ## Points -/

/-- A member behind a point. -/
theorem takes_memberTrailer (h : isName name false = true) (hends : EndsPath ts)
    (hcall : startsWith (Token.isGroup .parenthesis) ts = false) :
    Takes g.memberTrailer (.ident name false :: ts) (.field (some name)) ts := by
  have hawait : Takes (word? "await") (.ident name false :: ts) false (.ident name false :: ts) := by
    refine (takes_looking _ _).bind ?_
    rw [startsWord_ident h (by decide), if_neg Bool.false_ne_true]
    exact takes_pure _ _
  have hmember : Takes member (.ident name false :: ts) (some name) ts := by
    refine (takes_rest _).bind ?_
    dsimp only
    rw [if_pos h]
    exact (takes_drop 1 _).bind (takes_pure _ _)
  refine hawait.bind ?_
  rw [if_neg Bool.false_ne_true]
  refine hmember.bind ((takes_rest ts).bind ?_)
  dsimp only
  rw [hends.colons, hcall, Bool.and_false, if_neg Bool.false_ne_true]
  exact takes_pure _ _

/-- A point with a name behind it makes a member of what stands in front of it. -/
theorem takes_trailerRound_point (h : isName name false = true) (hends : EndsPath ts)
    (hcall : startsWith (Token.isGroup .parenthesis) ts = false) (he : e.isRange = false) :
    Takes (g.trailerRound e) (.punct '.' joint :: .ident name false :: ts)
      (.again (.field (some name))) ts := by
  have hfloat : floatAt? (.ident name false :: ts) = none := by
    rw [floatAt?, literalAt?_name h]
  have hpoint : Takes g.pointTrailer (.punct '.' joint :: .ident name false :: ts)
      (.field (some name)) ts := by
    refine (takes_drop 1 _).bind ((takes_rest _).bind ?_)
    rw [List.drop_one, List.tail_cons, hfloat]
    exact takes_memberTrailer h hends hcall
  refine (takes_rest _).bind ?_
  rw [if_neg (by simp [startsWith, Token.isGroup]), if_pos (by simp [startsPoint, startsMark, he])]
  exact hpoint.bind (takes_pure _ _)

/-! ## Groups -/

theorem takes_parenthesized {inner : List Token} (hinner : inner ≠ [])
    (h : Takes (g.expression true) inner e []) :
    Takes g.parenthesized (.group .parenthesis inner :: behind) (.paren e) behind := by
  refine takes_inside ((takes_rest inner).bind ?_)
  rw [if_neg (by simpa using hinner)]
  exact h.bind ((takes_rest []).bind (takes_pure _ _))

/-- A group in parentheses where an operand is due. -/
theorem takes_atom_group {inner : List Token} (operand : Parser Expr)
    (h : Takes g.parenthesized (.group .parenthesis inner :: behind) e behind) :
    Takes (g.atom struct operand) (.group .parenthesis inner :: behind) e behind := by
  have hword : ∀ word, startsWord word (.group .parenthesis inner :: behind) = false := fun _ => rfl
  have hasync : ¬startsAsyncBlock (.group .parenthesis inner :: behind) = true := by
    simp [startsAsyncBlock, hword]
  have htry : ¬(startsWord "try" (.group .parenthesis inner :: behind) &&
      startsWith (Token.isGroup .brace) (Token.group .parenthesis inner :: behind).tail) = true := by
    simp [hword]
  have hclosure : ¬startsClosure (.group .parenthesis inner :: behind) = true := by
    simp [startsClosure, hword, startsMark]
  have hbuiltin : ¬startsBuiltin (.group .parenthesis inner :: behind) = true := by
    simp [startsBuiltin, hword]
  have hpath : ¬startsPath (.group .parenthesis inner :: behind) = true := by
    simp [startsPath, hword, startsPathWord, startsWith, Token.isIdent, startsMark]
  refine (takes_rest _).bind ?_
  dsimp only [literalAt?]
  rw [if_neg hasync, if_neg htry, if_neg hclosure, if_neg hbuiltin, if_neg hpath,
    if_pos (by simp [startsWith, Token.isGroup])]
  exact h

/-- A group in parentheses behind an operand is a call with one argument. -/
theorem takes_call {inner : List Token} {argument : Expr} (hinner : inner ≠ [])
    (h : Takes (g.expression true) inner argument []) (hends : EndsValue behind) :
    Takes (g.trailers e) (.group .parenthesis inner :: behind) (.call e [argument]) behind := by
  have harguments : Takes g.callArguments (.group .parenthesis inner :: behind) [argument] behind :=
    takes_inside (Separated.last hinner h).takes_commaList
  have hround : Takes (g.trailerRound e) (.group .parenthesis inner :: behind)
      (.again (.call e [argument])) behind := by
    refine (takes_rest _).bind ?_
    rw [if_pos (by simp [startsWith, Token.isGroup])]
    exact harguments.bind (takes_pure _ _)
  rw [trailers_eq]
  exact (takes_rest _).bind (takes_repeatFor_again hround
    (takes_repeatFor_done (takes_trailerRound_end _ hends) _))

end Grammar

/-! ## Accesses -/

open Grammar

variable {names : List String}

theorem PointTokens.endsPath (h : PointTokens names ts) :
    EndsPath ts ∧ startsWith (Token.isGroup .parenthesis) ts = false := by
  cases h with
  | nil => exact ⟨⟨rfl, rfl, rfl, rfl⟩, rfl⟩
  | cons => exact ⟨⟨rfl, rfl, rfl, rfl⟩, rfl⟩

theorem not_isRange_of_memberName? (h : memberName? e = some name) : e.isRange = false := by
  cases e <;> first | rfl | cases h

/-- **The last name is left** when all points have been taken. -/
theorem PointTokens.takes_rounds (h : PointTokens names ts)
    (hnames : ∀ n ∈ names, isName n false = true) (he : memberName? e = some name) {n : Nat}
    (hn : ts.length < n) :
    ∃ e', memberName? e' = (name :: names).getLast? ∧
      Takes (repeatFor g.trailerRound n e) ts e' [] := by
  induction h generalizing e name n with
  | nil =>
    obtain ⟨n, rfl⟩ := Nat.exists_eq_add_one_of_ne_zero (Nat.ne_zero_of_lt hn)
    exact ⟨e, he, takes_repeatFor_done (takes_trailerRound_end e (Or.inl rfl)) n⟩
  | @cons next names ts joint h ih =>
    obtain ⟨n, rfl⟩ := Nat.exists_eq_add_one_of_ne_zero (Nat.ne_zero_of_lt hn)
    obtain ⟨hnext, hnames⟩ := List.forall_mem_cons.mp hnames
    simp only [List.length_cons] at hn
    obtain ⟨e', he', hrest⟩ := ih hnames (e := .field (some next)) rfl (n := n) (by omega)
    obtain ⟨hends, hcall⟩ := h.endsPath
    have hround : Takes (g.trailerRound e) (.punct '.' joint :: .ident next false :: ts)
        (.again (.field (some next))) ts :=
      takes_trailerRound_point hnext hends hcall (not_isRange_of_memberName? he)
    exact ⟨e', he'.trans List.getLast?_cons_cons.symm, takes_repeatFor_again hround hrest⟩

/-- An access is parsed as an expression that ends with its last name. -/
theorem AccessTokens.takes_expression (h : AccessTokens names ts)
    (hnames : ∀ n ∈ names, isName n false = true) :
    ∃ e, memberName? e = names.getLast? ∧ Takes (g.expressionRule struct) ts e [] := by
  obtain @⟨first, names, ts, hpoints⟩ := h
  obtain ⟨hfirst, hnames⟩ := List.forall_mem_cons.mp hnames
  have hpath : memberName? (.path ⟨false, true, [first]⟩) = some first := rfl
  obtain ⟨e, he, hrounds⟩ :=
    hpoints.takes_rounds (g := g) hnames hpath (Nat.lt_add_of_pos_right Nat.two_pos)
  have htrailers : Takes (g.trailers (.path ⟨false, true, [first]⟩)) ts e [] := by
    rw [trailers_eq]
    exact (takes_rest ts).bind hrounds
  have hunary : Takes (g.unaryRule struct) (.ident first false :: ts) e [] :=
    takes_unary (by simp [startsMark]) (takes_atom_name _ hfirst hpoints.endsPath.1) htrailers
  exact ⟨e, he, hunary.bind (takes_climb_end e (Or.inl rfl))⟩

/-! ## Members -/

theorem AccessTokens.ne_nil (h : AccessTokens names ts) : ts ≠ [] := by
  cases h
  exact List.cons_ne_nil _ _

theorem MemberTokens.ne_nil {s : String} (h : MemberTokens s ts) : ts ≠ [] := by
  cases h <;> exact List.cons_ne_nil _ _

/-- **The tokens of a member are parsed** as an expression that stands for its name. -/
theorem MemberTokens.takes_expression {s : String} (h : MemberTokens s ts) {n : Nat}
    (hn : sizeOfTokens ts ≤ n) :
    ∃ e, settingsOf e = .ok s ∧ ∀ struct behind, EndsValue behind →
      Takes ((ofDepth n).expressionRule struct) (ts ++ behind) e behind := by
  -- Each group is one level of parentheses, and its content is parsed by the grammar below.
  induction h generalizing n with
  | string =>
    refine ⟨.literal (.string s), rfl, fun struct behind hends => ?_⟩
    have hatom : literalAt? (.literal (.string s) :: behind) = some (.string s, behind) := rfl
    have hunary : Takes ((ofDepth n).unaryRule struct) (.literal (.string s) :: behind)
        (.literal (.string s)) behind :=
      takes_unary (by simp [startsMark]) (takes_atom _ hatom)
        (takes_no_trailers _ hends)
    exact hunary.bind (takes_climb_end _ hends)
  | @nameof names ts hnames hlast haccess =>
    simp only [sizeOfTokens, Token.size] at hn
    obtain ⟨n, rfl⟩ := Nat.exists_eq_add_one_of_ne_zero (n := n) (by omega)
    obtain ⟨argument, hargument, hinner⟩ :
        ∃ e, memberName? e = names.getLast? ∧ Takes ((ofDepth (n + 1)).expression true) ts e [] :=
      haccess.takes_expression fun name hname => (hnames name hname).2
    have hcallee : Path.isName ⟨false, true, ["nameof"]⟩ "nameof" = true := by decide
    refine ⟨.call (.path ⟨false, true, ["nameof"]⟩) [argument], ?_, fun struct behind hends => ?_⟩
    · rw [settingsOf, nameofTarget, if_pos hcallee, hargument, hlast]
    · have hunary : Takes ((ofDepth (n + 1)).unaryRule struct)
          (.ident "nameof" false :: .group .parenthesis ts :: behind)
          (.call (.path ⟨false, true, ["nameof"]⟩) [argument]) behind :=
        takes_unary (by simp [startsMark])
          (takes_atom_name _ isPlainName_nameof.2 ⟨rfl, rfl, rfl, rfl⟩)
          (takes_call haccess.ne_nil hinner hends)
      exact hunary.bind (takes_climb_end _ hends)
  | @paren ts h ih =>
    simp only [sizeOfTokens, Token.size] at hn
    obtain ⟨n, rfl⟩ := Nat.exists_eq_add_one_of_ne_zero (n := n) (by omega)
    obtain ⟨e, he, htakes⟩ := ih (n := n) (by omega)
    have hinner : Takes ((ofDepth (n + 1)).expression true) ts e [] := by
      have htakes := htakes true [] (Or.inl rfl)
      rwa [List.append_nil] at htakes
    refine ⟨.paren e, he, fun struct behind hends => ?_⟩
    have hunary : Takes ((ofDepth (n + 1)).unaryRule struct) (.group .parenthesis ts :: behind)
        (.paren e) behind :=
      takes_unary (by simp [startsMark]) (takes_atom_group _ (takes_parenthesized h.ne_nil hinner))
        (takes_no_trailers _ hends)
    exact hunary.bind (takes_climb_end _ hends)

end DataContract.Marker
