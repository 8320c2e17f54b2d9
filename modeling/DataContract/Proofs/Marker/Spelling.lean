import DataContract.Declaration.Attribute
import DataContract.Proofs.Marker.Leaves

/-!
# Argument lists as written

A list of named arguments is written as its names and values with equals signs between them, the
arguments separated by commas: `SettingsMember = "Options", ImplementInstanceWriteMethod = true`.
How much white space there is does not matter, so `Spells` is a relation and not a function.

`Spells.lexes` says that every such text has the tokens of the list (`ListTokens`).  The only tokens
that depend on more than the list are marks, which are joint or not with what stands behind them.
-/

namespace DataContract.Marker

open Declaration Lexer

/-! ## Texts -/

/-- A name is an identifier, which may be raw or a keyword. -/
def IsIdentifier (name : String) : Prop := ∃ t, anyIdent? name.toList = some (t, [])

/-- There is nothing but white space. -/
def Blank (w : List Char) : Prop := ∀ c ∈ w, separates c = true

instance (w : List Char) : Decidable (Blank w) :=
  decidable_of_iff (w.all separates = true) List.all_eq_true

theorem blank_nil : Blank [] := fun _ h => nomatch h

/-- White space begins with nothing but white space. -/
theorem Blank.head?_append {w cs : List Char} {c : Char} (hw : Blank w) (hc : separates c = false)
    (h : cs.head? ≠ some c) : (w ++ cs).head? ≠ some c := by
  cases w with
  | nil => exact h
  | cons d w =>
    rintro ⟨⟩
    rw [hw c (List.mem_cons_self ..)] at hc
    cases hc

/-- A constant as it is written. -/
def literalText : Constant → List Char
  | .null => "null".toList
  | .boolean b => (toString b).toList
  | .integer n => (toString n.toInt).toList
  | .string s => quote s

/-- An argument is written as its name, an equals sign and its value, with any white space around
them. -/
inductive SpellsArgument : NamedArgument → List Char → Prop
  | intro {name : String} {value : Constant} {w₁ w₂ w₃ w₄ : List Char} (h₁ : Blank w₁)
    (h₂ : Blank w₂) (h₃ : Blank w₃) (h₄ : Blank w₄) :
    SpellsArgument ⟨name, value⟩
      (w₁ ++ (name.toList ++ (w₂ ++ '=' :: (w₃ ++ (literalText value ++ w₄)))))

/-- A list of arguments is written as its arguments with commas between them. -/
inductive Spells : List NamedArgument → List Char → Prop
  | one {a : NamedArgument} {cs : List Char} (h : SpellsArgument a cs) : Spells [a] cs
  | more {a : NamedArgument} {as : List NamedArgument} {cs rest : List Char}
    (h : SpellsArgument a cs) (hrest : Spells as rest) : Spells (a :: as) (cs ++ ',' :: rest)

theorem Spells.ne_nil {as : List NamedArgument} {cs : List Char} (h : Spells as cs) : as ≠ [] := by
  cases h <;> exact List.cons_ne_nil _ _

/-- Every list of arguments but the empty one can be written. -/
theorem exists_spells {as : List NamedArgument} (h : as ≠ []) : ∃ cs, Spells as cs := by
  induction as with
  | nil => exact absurd rfl h
  | cons a as ih =>
    have ha : SpellsArgument a _ := .intro blank_nil blank_nil blank_nil blank_nil
    cases as with
    | nil => exact ⟨_, .one ha⟩
    | cons b bs =>
      obtain ⟨cs, hcs⟩ := ih (List.cons_ne_nil b bs)
      exact ⟨_, .more ha hcs⟩

/-! ## Tokens -/

/-- The tokens of a value. -/
inductive ValueTokens : Constant → List Token → Prop
  | boolean (b : Bool) : ValueTokens (.boolean b) [.ident (toString b) false]
  | integer {n : Int64} {m : Nat} (h : n.toInt = m) :
    ValueTokens (.integer n) [.literal (.integer m "")]
  | negative {n : Int64} {m : Nat} (h : n.toInt = -m) (joint : Bool) :
    ValueTokens (.integer n) [.punct '-' joint, .literal (.integer m "")]
  | string (s : String) : ValueTokens (.string s) [.literal (.string s)]

/-- The tokens of an argument. -/
inductive ArgumentTokens : NamedArgument → List Token → Prop
  | intro {name : String} {value : Constant} {t : Token} {ts : List Token}
    (hname : anyIdent? name.toList = some (t, [])) (joint : Bool) (hvalue : ValueTokens value ts) :
    ArgumentTokens ⟨name, value⟩ (t :: .punct '=' joint :: ts)

/-- The tokens of a list of arguments. -/
inductive ListTokens : List NamedArgument → List Token → Prop
  | one {a : NamedArgument} {ts : List Token} (h : ArgumentTokens a ts) : ListTokens [a] ts
  | more {a : NamedArgument} {as : List NamedArgument} {ts rest : List Token}
    (h : ArgumentTokens a ts) (joint : Bool) (hrest : ListTokens as rest) :
    ListTokens (a :: as) (ts ++ .punct ',' joint :: rest)

/-! ## From texts to tokens -/

theorem anyIdent?_truth (b : Bool) :
    anyIdent? (toString b).toList = some (.ident (toString b) false, []) := by
  have hword : IsWord (toString b).toList := by
    cases b <;> decide +kernel
  rw [hword.anyIdent?, String.ofList_toList]

/-- A value other than null has the tokens of a value. -/
theorem lexes_value {value : Constant} (hvalue : value ≠ .null) {rest : List Char}
    {ts : List Token} (hrest : Closes rest) (h : Lexes rest ts) :
    ∃ vs, ValueTokens value vs ∧ Lexes (literalText value ++ rest) (vs ++ ts) := by
  cases value with
  | null => exact absurd rfl hvalue
  | boolean b => exact ⟨_, .boolean b, h.identifier (anyIdent?_truth b) hrest.stops⟩
  | string s => exact ⟨_, .string s, h.quote s hrest.stops⟩
  | integer n =>
    rw [literalText]
    cases hn : n.toInt with
    | ofNat m =>
      have hlist : (toString (Int.ofNat m)).toList = Nat.toDigits 10 m := Nat.toList_repr
      rw [hlist]
      exact ⟨_, .integer hn, h.digits m hrest⟩
    | negSucc m =>
      have hlist : (toString (Int.negSucc m)).toList = '-' :: Nat.toDigits 10 (m + 1) := by
        show ("-" ++ (m + 1).repr).toList = _
        rw [String.toList_append, Nat.toList_repr]
        rfl
      rw [hlist]
      exact ⟨_, .negative hn _, (h.digits (m + 1) hrest).mark (by decide)⟩

theorem SpellsArgument.lexes {a : NamedArgument} {cs rest : List Char} {ts : List Token}
    (hspells : SpellsArgument a cs) (hname : IsIdentifier a.name) (hvalue : a.value ≠ .null)
    (hrest : Closes rest) (h : Lexes rest ts) :
    ∃ vs, ArgumentTokens a vs ∧ Lexes (cs ++ rest) (vs ++ ts) := by
  obtain ⟨h₁, h₂, h₃, h₄⟩ := hspells
  obtain ⟨t, ht⟩ := hname
  -- The tokens are found from the back: the value, the equals sign, and the name.
  obtain ⟨vs, hvs, hlexes⟩ := lexes_value hvalue (hrest.blank h₄) (h.blank h₄)
  have hequals := (hlexes.blank h₃).mark (c := '=') (by decide)
  have hident := ((hequals.blank h₂).identifier ht ((closes_equals _).blank h₂).stops).blank h₁
  simp only [List.append_assoc, List.cons_append]
  exact ⟨_, .intro ht _ hvs, hident⟩

/-- **The tokens of a text that spells a list** are those of the list. -/
theorem Spells.lexes {as : List NamedArgument} {cs : List Char} (hspells : Spells as cs)
    (hnames : ∀ a ∈ as, IsIdentifier a.name) (hvalues : ∀ a ∈ as, a.value ≠ .null) :
    ∃ ts, ListTokens as ts ∧ Lexes cs ts := by
  induction hspells with
  | one h =>
    obtain ⟨vs, hvs, hlexes⟩ := h.lexes (hnames _ (List.mem_singleton_self _))
      (hvalues _ (List.mem_singleton_self _)) closes_nil lexes_nil
    rw [List.append_nil, List.append_nil] at hlexes
    exact ⟨vs, .one hvs, hlexes⟩
  | more h hspells ih =>
    obtain ⟨hname, hnames⟩ := List.forall_mem_cons.mp hnames
    obtain ⟨hvalue, hvalues⟩ := List.forall_mem_cons.mp hvalues
    obtain ⟨ts, hts, hrest⟩ := ih hnames hvalues
    obtain ⟨vs, hvs, hlexes⟩ :=
      h.lexes hname hvalue (closes_comma _) (hrest.mark (c := ',') (by decide))
    exact ⟨_, .more hvs _ hts, hlexes⟩

/-- No such text begins with a byte order mark. -/
theorem SpellsArgument.head {a : NamedArgument} {cs : List Char} (h : SpellsArgument a cs)
    (hname : IsIdentifier a.name) (rest : List Char) :
    (cs ++ rest).head? ≠ some byteOrderMark := by
  obtain ⟨h₁, -, -, -⟩ := h
  obtain ⟨t, ht⟩ := hname
  simp only [List.append_assoc]
  exact h₁.head?_append (by decide) (head?_append_of_anyIdent? ht (by decide +kernel) _)

theorem Spells.tokenize? {as : List NamedArgument} {text : String} (hspells : Spells as text.toList)
    (hnames : ∀ a ∈ as, IsIdentifier a.name) (hvalues : ∀ a ∈ as, a.value ≠ .null) :
    ∃ ts, ListTokens as ts ∧ tokenize? text = some ts := by
  obtain ⟨ts, hts, hlexes⟩ := hspells.lexes hnames hvalues
  refine ⟨ts, hts, tokenize?_of_lexes hlexes ?_⟩
  generalize text.toList = cs at hspells
  cases hspells with
  | one h =>
    rw [← List.append_nil cs]
    exact h.head (hnames _ (List.mem_singleton_self _)) []
  | more h => exact h.head (hnames _ (List.mem_cons_self ..)) _

end DataContract.Marker
