import DataContract.Marker.Binding

/-!
# The values of options

What stands behind the name of an option has to make a value for it.  The option for the settings
takes the name of a member: a string, or a call of `nameof`, either of them possibly in parentheses
(`Expr.Names`).  The option for a writer on the instance takes a truth value, a string that spells
one, and nothing at all, which counts as true.  `MarkerOption.Takes` is the list of these, and
`MarkerOption.valueOf_eq_ok_iff` says that there are no others.
-/

namespace DataContract.Marker

/-! ## Names of members -/

/-- An expression names a member: it is a string, or a call of `nameof` with a path or a member
access for its one argument, possibly in parentheses. -/
inductive Expr.Names : Expr → String → Prop
  | string (s : String) : Names (.literal (.string s)) s
  | nameof {p : Path} {argument : Expr} {s : String} (hcallee : p.isName "nameof" = true)
    (hargument : memberName? argument = some s) : Names (.call (.path p) [argument]) s
  | paren {e : Expr} {s : String} (h : e.Names s) : Names (.paren e) s

/-- A call names a member exactly if it is one of `nameof`. -/
theorem nameofTarget_eq_ok_iff {callee : Expr} {arguments : List Expr} {s : String} :
    nameofTarget callee arguments = .ok s ↔ (Expr.call callee arguments).Names s := by
  constructor
  · intro h
    rw [nameofTarget.eq_def] at h
    split at h
    · split at h
      · rename_i hcallee
        split at h
        · rename_i hargument
          exact .nameof hcallee (by rw [hargument, Except.ok.inj h])
        · cases h
      · cases h
    · cases h
  · rintro (_ | ⟨hcallee, hargument⟩)
    rw [nameofTarget, if_pos hcallee, hargument]

/-- **The expressions that name a member** are those that the settings can be taken from. -/
theorem settingsOf_eq_ok_iff {e : Expr} {s : String} : settingsOf e = .ok s ↔ e.Names s := by
  -- The induction follows the parentheses, in which alone the expression may be nested.
  induction e using settingsOf.induct with
  | case1 s' =>
    rw [settingsOf, Except.ok.injEq]
    exact ⟨fun h => h ▸ .string s', fun | .string _ => rfl⟩
  | case2 l hl =>
    rw [settingsOf]
    · exact ⟨nofun, fun | .string s => absurd rfl (hl s)⟩
    · exact hl
  | case3 e ih =>
    rw [settingsOf, ih]
    exact ⟨.paren, fun | .paren h => h⟩
  | case4 callee arguments => rw [settingsOf, nameofTarget_eq_ok_iff]
  | case5 e hstring hliteral hparen hcall =>
    rw [settingsOf]
    · refine ⟨nofun, ?_⟩
      rintro (_ | _ | _)
      · exact absurd rfl (hstring s)
      · exact absurd rfl (hcall _ _)
      · exact absurd rfl (hparen _)
    · exact hstring
    · exact hliteral
    · exact hparen
    · exact hcall

/-! ## Truth values -/

/-- How a truth value is spelled. -/
def truthText (b : Bool) : String := if b then "true" else "false"

/-- A truth value is given by a literal, or by a string that spells it. -/
theorem instanceWriterOf_eq_ok_iff {e : Expr} {b : Bool} :
    instanceWriterOf e = .ok b ↔
      e = .literal (.boolean b) ∨ e = .literal (.string (truthText b)) := by
  constructor
  · intro h
    rw [instanceWriterOf.eq_def] at h
    split at h
    · exact Or.inl (by rw [Except.ok.inj h])
    · rename_i s
      right
      rw [truthOf] at h
      split at h
      · rename_i hs
        rw [← Except.ok.inj h, hs]
        rfl
      · split at h
        · rename_i hs
          rw [← Except.ok.inj h, hs]
          rfl
        · cases h
    · cases h
    · cases h
  · rintro (rfl | rfl)
    · rfl
    · cases b <;> rfl

/-! ## Values -/

namespace MarkerOption

/-- The values that an option can have. -/
def Value : MarkerOption → Type
  | settings => Option String
  | instanceWriter => Bool

/-- The value that stands behind the name of an option. -/
def valueOf : (option : MarkerOption) → ItemBody → Except ValueFault option.Value
  | _, .list tokens => .error (listFault tokens)
  | settings, .word => .error (.form "word")
  | settings, .value e => (settingsOf e).map some
  | instanceWriter, .word => .ok true
  | instanceWriter, .value e => instanceWriterOf e

/-- What an option takes for a value, and which value that is. -/
inductive Takes : (option : MarkerOption) → ItemBody → option.Value → Prop
  | member {e : Expr} {s : String} (h : e.Names s) : Takes settings (.value e) (some s)
  | truth (b : Bool) : Takes instanceWriter (.value (.literal (.boolean b))) b
  | text (b : Bool) : Takes instanceWriter (.value (.literal (.string (truthText b)))) b
  | word : Takes instanceWriter .word true

/-- **Which values an option takes.** -/
theorem valueOf_eq_ok_iff {option : MarkerOption} {body : ItemBody} {v : option.Value} :
    option.valueOf body = .ok v ↔ option.Takes body v := by
  constructor
  · intro h
    cases option with
    | settings =>
      cases body with
      | word => cases h
      | list tokens => cases h
      | value e =>
        rw [valueOf] at h
        cases hs : settingsOf e with
        | error f =>
          rw [hs] at h
          cases h
        | ok s =>
          rw [hs] at h
          cases h
          exact .member (settingsOf_eq_ok_iff.mp hs)
    | instanceWriter =>
      cases body with
      | word =>
        cases h
        exact .word
      | list tokens => cases h
      | value e =>
        rcases instanceWriterOf_eq_ok_iff.mp h with rfl | rfl
        · exact .truth v
        · exact .text v
  · rintro (h | b | b | _)
    · rw [valueOf, settingsOf_eq_ok_iff.mpr h]
      rfl
    · rfl
    · exact instanceWriterOf_eq_ok_iff.mpr (Or.inr rfl)
    · rfl

end MarkerOption

end DataContract.Marker
