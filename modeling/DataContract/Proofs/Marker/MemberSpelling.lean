import DataContract.Marker.Parser
import DataContract.Proofs.Marker.Spelling

/-!
# Names of members as written

A member is named by a string, or by a call of `nameof` with an access to it, such as
`nameof(Program.Settings.Json)`.  Parentheses may stand around either.  `SpellsMember` says how this is
written, with any white space between the tokens.

`SpellsMember.lexes` says that every such text has the tokens of a member (`MemberTokens`), in which
each pair of parentheses is a group.  It is proved whatever may follow the text, since that is the rest of
the parentheses around it.
-/

namespace DataContract.Marker

open Lexer

/-! ## Texts -/

/-- An identifier that is written as it is and is no reserved word. -/
def IsPlainName (name : String) : Prop := IsWord name.toList ∧ isName name false = true

instance : DecidablePred IsPlainName := fun name =>
  inferInstanceAs (Decidable (IsWord name.toList ∧ isName name false = true))

/-- Names with points between them, and any white space around the names. -/
inductive SpellsAccess : List String → List Char → Prop
  | one {name : String} {v w : List Char} (hv : Blank v) (hw : Blank w) :
    SpellsAccess [name] (v ++ (name.toList ++ w))
  | more {name : String} {names : List String} {v w cs : List Char} (hv : Blank v) (hw : Blank w)
    (h : SpellsAccess names cs) :
    SpellsAccess (name :: names) (v ++ (name.toList ++ (w ++ '.' :: cs)))

/-- A text names a member: a string does, and so does a call of `nameof` with an access that ends with
the member, and either of them in parentheses. -/
inductive SpellsMember (s : String) : List Char → Prop
  | string {v w : List Char} (hv : Blank v) (hw : Blank w) : SpellsMember s (v ++ (quote s ++ w))
  | nameof {names : List String} {u v w cs : List Char} (hu : Blank u) (hv : Blank v)
    (hw : Blank w) (hnames : ∀ name ∈ names, IsPlainName name) (hlast : names.getLast? = some s)
    (h : SpellsAccess names cs) :
    SpellsMember s (u ++ ("nameof".toList ++ (v ++ '(' :: (cs ++ ')' :: w))))
  | paren {v w cs : List Char} (hv : Blank v) (hw : Blank w) (h : SpellsMember s cs) :
    SpellsMember s (v ++ '(' :: (cs ++ ')' :: w))

/-- Every list of names but the empty one can be written. -/
theorem exists_spellsAccess {names : List String} (h : names ≠ []) : ∃ cs, SpellsAccess names cs := by
  induction names with
  | nil => exact absurd rfl h
  | cons name names ih =>
    cases names with
    | nil => exact ⟨_, .one blank_nil blank_nil⟩
    | cons name' names =>
      obtain ⟨cs, hcs⟩ := ih (List.cons_ne_nil name' names)
      exact ⟨_, .more blank_nil blank_nil hcs⟩

/-! ## Tokens -/

/-- Names with a point in front of each. -/
inductive PointTokens : List String → List Token → Prop
  | nil : PointTokens [] []
  | cons {name : String} {names : List String} {ts : List Token} (joint : Bool)
    (h : PointTokens names ts) :
    PointTokens (name :: names) (.punct '.' joint :: .ident name false :: ts)

/-- The tokens of an access. -/
inductive AccessTokens : List String → List Token → Prop
  | intro (name : String) {names : List String} {ts : List Token} (h : PointTokens names ts) :
    AccessTokens (name :: names) (.ident name false :: ts)

/-- The tokens of what names a member. -/
inductive MemberTokens (s : String) : List Token → Prop
  | string : MemberTokens s [.literal (.string s)]
  | nameof {names : List String} {ts : List Token} (hnames : ∀ name ∈ names, IsPlainName name)
    (hlast : names.getLast? = some s) (h : AccessTokens names ts) :
    MemberTokens s [.ident "nameof" false, .group .parenthesis ts]
  | paren {ts : List Token} (h : MemberTokens s ts) : MemberTokens s [.group .parenthesis ts]

/-! ## From texts to tokens -/

variable {s : String} {names : List String} {behind cs rest w : List Char} {us : List Token}

theorem IsPlainName.anyIdent? {name : String} (h : IsPlainName name) :
    anyIdent? name.toList = some (.ident name false, []) := by
  rw [h.1.anyIdent?, String.ofList_toList]

theorem isPlainName_nameof : IsPlainName "nameof" := by
  refine ⟨?_, rfl⟩
  decide +kernel

/-- A slash, which may open a comment, is no white space and begins no name. -/
theorem slash_plain : separates '/' = false ∧ beginsIdent '/' = false := by
  decide +kernel

theorem IsPlainName.head? {name : String} (h : IsPlainName name) (rest : List Char) :
    (name.toList ++ rest).head? ≠ some '/' :=
  head?_append_of_anyIdent? h.anyIdent? slash_plain.2 rest

theorem SpellsAccess.head? (h : SpellsAccess names cs) (hnames : ∀ name ∈ names, IsPlainName name)
    (rest : List Char) : (cs ++ rest).head? ≠ some '/' := by
  cases h with
  | one hv hw =>
    simp only [List.append_assoc]
    exact hv.head?_append slash_plain.1 ((hnames _ (List.mem_singleton_self _)).head? _)
  | more hv hw h =>
    simp only [List.append_assoc]
    exact hv.head?_append slash_plain.1 ((hnames _ (List.mem_cons_self ..)).head? _)

/-- No comment begins where a text names a member. -/
theorem SpellsMember.head? (h : SpellsMember s cs) (rest : List Char) :
    (cs ++ rest).head? ≠ some '/' := by
  cases h with
  | string hv hw =>
    simp only [List.append_assoc]
    exact hv.head?_append slash_plain.1 (by simp [quote])
  | nameof hu hv hw hnames hlast h =>
    simp only [List.append_assoc]
    exact hu.head?_append slash_plain.1 (isPlainName_nameof.head? _)
  | paren hv hw h =>
    simp only [List.append_assoc]
    exact hv.head?_append slash_plain.1 (by simp)

/-- **An access has its tokens**, the names with points between them. -/
theorem SpellsAccess.lexes (hspells : SpellsAccess names cs)
    (hnames : ∀ name ∈ names, IsPlainName name) (hrest : Stops rest) (h : LexesUpTo behind rest us) :
    ∃ ts, AccessTokens names ts ∧ LexesUpTo behind (cs ++ rest) (ts ++ us) := by
  induction hspells with
  | @one name v w hv hw =>
    have hname := (hnames name (List.mem_singleton_self name)).anyIdent?
    simp only [List.append_assoc]
    exact ⟨_, .intro name .nil, ((h.blank hw).identifier hname (hrest.blank hw)).blank hv⟩
  | @more name names v w cs hv hw hspells ih =>
    obtain ⟨hname, hnames⟩ := List.forall_mem_cons.mp hnames
    obtain ⟨_, ⟨name', hpoints⟩, hlexes⟩ := ih hnames
    have hpoint := (hlexes.mark (c := '.') (by decide)).blank hw
    have hstops : Stops (w ++ '.' :: (cs ++ rest)) := (stops_cons (by decide) _).blank hw
    simp only [List.append_assoc, List.cons_append]
    exact ⟨_, .intro name (.cons _ hpoints), (hpoint.identifier hname.anyIdent? hstops).blank hv⟩

/-- A text in parentheses is a group of its tokens. -/
theorem lexesUpTo_parentheses {ts : List Token} (hslash : (cs ++ ')' :: rest).head? ≠ some '/')
    (hinner : LexesUpTo (')' :: rest) (cs ++ ')' :: rest) ts) (h : LexesUpTo behind rest us) :
    LexesUpTo behind ('(' :: (cs ++ ')' :: rest)) (.group .parenthesis ts :: us) :=
  LexesUpTo.group (d := .parenthesis) hslash hinner h

/-- **What names a member has its tokens.** -/
theorem SpellsMember.lexes (hspells : SpellsMember s cs) {behind rest : List Char} {us : List Token}
    (hrest : Stops rest) (h : LexesUpTo behind rest us) :
    ∃ ts, MemberTokens s ts ∧ LexesUpTo behind (cs ++ rest) (ts ++ us) := by
  induction hspells generalizing behind rest us with
  | string hv hw =>
    simp only [List.append_assoc]
    exact ⟨_, .string, ((h.blank hw).quote s (hrest.blank hw)).blank hv⟩
  | @nameof names u v w cs hu hv hw hnames hlast haccess =>
    have hclosing := lexesUpTo_closing .parenthesis (w ++ rest)
    obtain ⟨ts, hts, hinner⟩ := haccess.lexes hnames (stops_cons (by decide) _) hclosing
    rw [List.append_nil] at hinner
    have hgroup := lexesUpTo_parentheses (haccess.head? hnames _) hinner (h.blank hw)
    have hstops : Stops (v ++ '(' :: (cs ++ ')' :: (w ++ rest))) :=
      (stops_cons (by decide) _).blank hv
    simp only [List.append_assoc, List.cons_append]
    exact ⟨_, .nameof hnames hlast hts,
      ((hgroup.blank hv).identifier isPlainName_nameof.anyIdent? hstops).blank hu⟩
  | @paren v w cs hv hw hspells ih =>
    have hclosing := lexesUpTo_closing .parenthesis (w ++ rest)
    obtain ⟨ts, hts, hinner⟩ := ih (stops_cons (by decide) _) hclosing
    rw [List.append_nil] at hinner
    have hgroup := lexesUpTo_parentheses (hspells.head? _) hinner (h.blank hw)
    simp only [List.append_assoc, List.cons_append]
    exact ⟨_, .paren hts, hgroup.blank hv⟩

end DataContract.Marker
