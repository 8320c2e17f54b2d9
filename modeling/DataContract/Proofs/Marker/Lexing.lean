import DataContract.Marker.Lexer
import Mathlib.Data.Bool.AllAny
import Mathlib.Data.List.TakeDrop

/-!
# Tokens one by one

The tokens of a text are found from the front, so they are put together here from the back: if `cs`
has the tokens `ts` (`Lexes`), then a text with one more token in front of `cs` has that token in
front of `ts`, and white space in front changes nothing.  The content of a group ends with the
delimiter that closes the group, so tokens are followed up to whatever is left behind them
(`LexesUpTo`), and a group is put together from its content and what follows it.

Where a token ends depends on what comes behind it.  Behind an identifier or a string stands something
that continues no identifier and opens no string (`Stops`): white space, a mark, a delimiter, or the
end of the text.  A point would continue a number, so behind numbers there are white space, an equals
sign, a comma or the end of the text (`Closes`).
-/

namespace DataContract.Marker.Lexer

open Text

/-! ## Characters -/

/-- Stretches of code points that occur in no identifier.  All white space lies in them, and all
characters below 128 but the letters, the digits and the underscore. -/
def unnamed : List (Nat × Nat) :=
  [(0, 0x2F), (0x3A, 0x40), (0x5B, 0x5E), (0x60, 0x60), (0x7B, 0xA9), (0x1680, 0x1680),
    (0x2000, 0x200B), (0x200E, 0x200F), (0x2028, 0x202F), (0x205F, 0x205F), (0x3000, 0x3000),
    (0xFEFF, 0xFEFF)]

/-- A character lies in one of those stretches. -/
def Unnamed (c : Char) : Prop := ∃ run ∈ unnamed, run.1 ≤ c.toNat ∧ c.toNat ≤ run.2

instance (c : Char) : Decidable (Unnamed c) := inferInstanceAs (Decidable (∃ run ∈ unnamed, _))

/-- Whether two stretches have nothing in common. -/
def apart (a b : Nat × Nat) : Bool := Nat.blt a.2 b.1 || Nat.blt b.2 a.1

theorem apart_iff {a b : Nat × Nat} : apart a b = true ↔ a.2 < b.1 ∨ b.2 < a.1 := by
  rw [apart, Bool.or_eq_true, Nat.blt_eq, Nat.blt_eq]

theorem unnamed_apart : (unnamed.all fun run =>
    (identifierStartSet.solid ++ identifierExtraSet.solid).all (apart run)) = true := by
  decide +kernel

theorem digits_apart : identifierStartSet.solid.all (apart (0x30, 0x39)) = true := by
  decide +kernel

/-- The sets of identifier characters consist of solid stretches. -/
theorem contains_iff_of_solid {s : CharSet} (hs : s.alternating = []) {c : Char} :
    s.contains c = true ↔ ∃ named ∈ s.solid, named.1 ≤ c.toNat ∧ c.toNat ≤ named.2 := by
  rw [CharSet.contains, CharSet.containsCode, hs, List.any_nil, Bool.or_false, List.any_eq_true]
  simp only [Bool.and_eq_true, decide_eq_true_eq]

theorem Unnamed.not_continuesIdent {c : Char} (hc : Unnamed c) : continuesIdent c = false := by
  obtain ⟨run, hrun, hlow, hhigh⟩ := hc
  have hall := List.all_eq_true.mp (List.all_eq_true.mp unnamed_apart run hrun)
  rw [Bool.eq_false_iff, continuesIdent, ne_eq, Bool.or_eq_true, contains_iff_of_solid rfl,
    contains_iff_of_solid rfl]
  rintro (⟨named, hnamed, hfirst, hlast⟩ | ⟨named, hnamed, hfirst, hlast⟩)
  · have hapart := apart_iff.mp (hall named (List.mem_append_left _ hnamed))
    omega
  · have hapart := apart_iff.mp (hall named (List.mem_append_right _ hnamed))
    omega

theorem not_unnamed {c : Char} (h : continuesIdent c = true) : ¬Unnamed c := by
  intro hc
  rw [hc.not_continuesIdent] at h
  cases h

theorem continuesIdent_of_beginsIdent {c : Char} (hc : beginsIdent c = true) :
    continuesIdent c = true := by
  rw [beginsIdent, Bool.or_eq_true, beq_iff_eq] at hc
  rcases hc with rfl | hc
  · decide +kernel
  · rw [continuesIdent, hc, Bool.true_or]

theorem Unnamed.not_beginsIdent {c : Char} (hc : Unnamed c) : beginsIdent c = false :=
  Bool.eq_false_iff.mpr fun hbegins => not_unnamed (continuesIdent_of_beginsIdent hbegins) hc

theorem not_beginsIdent_of_isDigit {c : Char} (hc : c.isDigit = true) : beginsIdent c = false := by
  rw [Char.isDigit_iff_toNat] at hc
  have hlow : 0x30 ≤ c.toNat := hc.1
  have hhigh : c.toNat ≤ 0x39 := hc.2
  rw [Bool.eq_false_iff, beginsIdent, ne_eq, Bool.or_eq_true, beq_iff_eq, contains_iff_of_solid rfl]
  rintro (rfl | ⟨named, hnamed, hfirst, hlast⟩)
  · exact absurd hhigh (by decide)
  · have hapart := apart_iff.mp (List.all_eq_true.mp digits_apart named hnamed)
    dsimp only at hapart
    omega

/-- Digits, the underscore and the letters of hexadecimal digits occur in identifiers. -/
theorem continuesIdent_of_hexDigit {c : Char} (hc : isDigitMark c = true ∨ hexDigit? c ≠ none) :
    continuesIdent c = true := by
  have hsome : (0x30 ≤ c.toNat ∧ c.toNat ≤ 0x39) ∨ c = '_' ∨ (0x61 ≤ c.toNat ∧ c.toNat ≤ 0x7A) ∨
      (0x41 ≤ c.toNat ∧ c.toNat ≤ 0x5A) := by
    rcases hc with hc | hc
    · rw [isDigitMark, Bool.or_eq_true, Char.isDigit_iff_toNat, beq_iff_eq] at hc
      exact hc.imp_right Or.inl
    · have hle : ∀ a b : Char, (a ≤ b) = (a.toNat ≤ b.toNat) := fun _ _ => rfl
      have h0 : '0'.toNat = 0x30 := rfl
      have h9 : '9'.toNat = 0x39 := rfl
      have ha : 'a'.toNat = 0x61 := rfl
      have hf : 'f'.toNat = 0x66 := rfl
      have hA : 'A'.toNat = 0x41 := rfl
      have hF : 'F'.toNat = 0x46 := rfl
      rw [hexDigit?] at hc
      simp only [hle, Bool.and_eq_true, decide_eq_true_eq] at hc
      split at hc
      · omega
      · split at hc
        · omega
        · split at hc
          · omega
          · exact absurd rfl hc
  rw [continuesIdent, Bool.or_eq_true, contains_iff_of_solid rfl, contains_iff_of_solid rfl]
  rcases hsome with h | rfl | h | h
  · exact Or.inr ⟨(0x30, 0x39), List.mem_of_getElem? (i := 0) rfl, h⟩
  · exact Or.inr ⟨(0x5F, 0x5F), List.mem_of_getElem? (i := 1) rfl, by decide⟩
  · exact Or.inl ⟨(0x61, 0x7A), List.mem_of_getElem? (i := 1) rfl, h⟩
  · exact Or.inl ⟨(0x41, 0x5A), List.mem_of_getElem? (i := 0) rfl, h⟩

/-- White space occurs in no identifier. -/
theorem unnamed_of_separates {c : Char} (hc : separates c = true) :
    Unnamed c ∧ (c.toNat < 0x21 ∨ 0x7B < c.toNat) := by
  simp only [separates, isBlank, CharSet.contains, CharSet.containsCode, blankSet, List.any_cons,
    List.any_nil, Bool.or_false, Bool.or_eq_true, Bool.and_eq_true, decide_eq_true_eq,
    beq_iff_eq] at hc
  rcases hc with (hc | rfl) | rfl
  · simp only [Unnamed, unnamed, List.mem_cons, List.not_mem_nil, or_false, exists_eq_or_imp,
      exists_eq_left]
    omega
  · decide
  · decide

/-- White space is none of the characters from the exclamation mark to the opening brace. -/
theorem ne_of_separates {c d : Char} (hc : separates c = true)
    (hd : 0x21 ≤ d.toNat ∧ d.toNat ≤ 0x7B) : c ≠ d := by
  rintro rfl
  have hcode := (unnamed_of_separates hc).2
  omega

/-! ## What stands behind a token -/

/-- What may stand behind an identifier or a string: a character that occurs in no identifier and is
neither a quote nor a hash, or nothing. -/
def Stops (rest : List Char) : Prop :=
  ∀ c ∈ rest.head?, Unnamed c ∧ c ∉ ['"', '#', '\'']

/-- What may stand behind any token: white space, an equals sign, a comma, or nothing. -/
def Closes (rest : List Char) : Prop :=
  ∀ c ∈ rest.head?, separates c = true ∨ c = '=' ∨ c = ','

theorem stops_cons {c : Char} (hc : Unnamed c ∧ c ∉ ['"', '#', '\'']) (rest : List Char) :
    Stops (c :: rest) := by
  rintro _ ⟨⟩
  exact hc

theorem stops_of_separates {c : Char} (hc : separates c = true) (rest : List Char) :
    Stops (c :: rest) := by
  refine stops_cons ⟨(unnamed_of_separates hc).1, fun hmem => ?_⟩ rest
  have hcodes : ∀ d ∈ ['"', '#', '\''], 0x21 ≤ d.toNat ∧ d.toNat ≤ 0x7B :=
    List.all_iff_forall_prop.mp (by decide)
  exact ne_of_separates hc (hcodes c hmem) rfl

theorem closes_nil : Closes [] := fun _ h => nomatch h

theorem closes_comma (rest : List Char) : Closes (',' :: rest) := by
  rintro _ ⟨⟩
  exact Or.inr (Or.inr rfl)

theorem closes_equals (rest : List Char) : Closes ('=' :: rest) := by
  rintro _ ⟨⟩
  exact Or.inr (Or.inl rfl)

/-- White space closes a token, and what closes one does so behind white space. -/
theorem Closes.blank {w rest : List Char} (hw : ∀ c ∈ w, separates c = true) (h : Closes rest) :
    Closes (w ++ rest) := by
  cases w with
  | nil => exact h
  | cons c w =>
    rintro _ ⟨⟩
    exact Or.inl (hw c (List.mem_cons_self ..))

theorem Stops.blank {w rest : List Char} (hw : ∀ c ∈ w, separates c = true) (h : Stops rest) :
    Stops (w ++ rest) := by
  cases w with
  | nil => exact h
  | cons c w => exact stops_of_separates (hw c (List.mem_cons_self ..)) (w ++ rest)

theorem Closes.stops {rest : List Char} (h : Closes rest) : Stops rest := by
  cases rest with
  | nil => exact fun _ h => nomatch h
  | cons c rest =>
    rcases h c rfl with hc | rfl | rfl
    · exact stops_of_separates hc rest
    · exact stops_cons (by decide) rest
    · exact stops_cons (by decide) rest

namespace Stops

variable {c : Char} {rest : List Char}

theorem unnamed (h : Stops (c :: rest)) : Unnamed c := (h c rfl).1

/-- A token that may go on with some characters of identifiers ends there. -/
theorem span {p : Char → Bool} (h : Stops rest)
    (hp : ∀ c, p c = true → continuesIdent c = true) {cs : List Char} (hcs : ∀ c ∈ cs, p c = true) :
    (cs ++ rest).takeWhile p = cs ∧ (cs ++ rest).dropWhile p = rest := by
  have hend : rest.takeWhile p = [] ∧ rest.dropWhile p = rest := by
    cases rest with
    | nil => exact ⟨rfl, rfl⟩
    | cons c rest =>
      have hc : p c = false :=
        Bool.eq_false_iff.mpr fun hc => not_unnamed (hp c hc) h.unnamed
      exact ⟨List.takeWhile_cons_of_neg (by simp [hc]), List.dropWhile_cons_of_neg (by simp [hc])⟩
  rw [List.takeWhile_append_of_pos hcs, List.dropWhile_append_of_pos hcs, hend.1, hend.2,
    List.append_nil]
  exact ⟨rfl, rfl⟩

/-- There is no suffix. -/
theorem spanSuffix (h : Stops rest) : spanSuffix rest = ([], rest) := by
  cases rest with
  | nil => rfl
  | cons c rest =>
    rw [Lexer.spanSuffix, spanIdent?, h.unnamed.not_beginsIdent, if_neg Bool.false_ne_true]
    rfl

end Stops

namespace Closes

variable {c : Char} {rest : List Char}

theorem unnamed (h : Closes (c :: rest)) : Unnamed c := h.stops.unnamed

theorem ne_point (h : Closes (c :: rest)) : c ≠ '.' := by
  rcases h c rfl with hc | rfl | rfl
  · exact ne_of_separates hc (by decide)
  · decide
  · decide

end Closes

/-! ## From the back -/

/-- A text has these tokens up to `behind`, where it ends or a delimiter closes a group, whatever depth
is left beyond its length. -/
def LexesUpTo (behind cs : List Char) (ts : List Token) : Prop :=
  ∀ n, cs.length < n → tokens? n cs = some (ts, behind)

/-- A text has these tokens. -/
abbrev Lexes (cs : List Char) (ts : List Token) : Prop := LexesUpTo [] cs ts

theorem tokenize?_of_lexes {s : String} {ts : List Token} (h : Lexes s.toList ts)
    (hmark : s.toList.head? ≠ some byteOrderMark) : tokenize? s = some ts := by
  rw [tokenize?, if_neg hmark, h _ (Nat.lt_succ_self _)]

theorem lexes_nil : Lexes [] [] := by
  intro n hn
  obtain ⟨n, rfl⟩ := Nat.exists_eq_add_one_of_ne_zero (Nat.ne_zero_of_lt hn)
  rfl

theorem afterComment?_cons {c : Char} (hc : c ≠ '/') (cs : List Char) :
    afterComment? (c :: cs) = none := by
  rw [afterComment?.eq_def]
  split <;> first | rfl | exact absurd (List.head_eq_of_cons_eq ‹_›) hc

theorem documentation?_cons {c : Char} (hc : c ≠ '/') (cs : List Char) :
    documentation? (c :: cs) = none := by
  rw [documentation?.eq_def]
  split <;> first | rfl | exact absurd (List.head_eq_of_cons_eq ‹_›) hc

/-- White space is passed over. -/
theorem skipBlank_append {w : List Char} (hw : ∀ c ∈ w, separates c = true) (n : Nat)
    (cs : List Char) : skipBlank (w.length + n) (w ++ cs) = skipBlank n cs := by
  induction w with
  | nil => rw [List.length_nil, Nat.zero_add, List.nil_append]
  | cons c w ih =>
    obtain ⟨hc, hw⟩ := List.forall_mem_cons.mp hw
    rw [List.length_cons, Nat.add_right_comm, List.cons_append, skipBlank,
      afterComment?_cons (ne_of_separates hc (by decide))]
    dsimp only
    rw [if_pos hc, ih hw]

/-- Nothing is passed over in front of any other character than a slash. -/
theorem skipBlank_cons {c : Char} (hslash : c ≠ '/') (hc : separates c = false) (n : Nat)
    (cs : List Char) : skipBlank n (c :: cs) = c :: cs := by
  cases n with
  | zero => rfl
  | succ n =>
    rw [skipBlank, afterComment?_cons hslash]
    dsimp only
    rw [if_neg (by simp [hc])]

/-- A text has the same tokens with white space in front. -/
theorem LexesUpTo.blank {behind w cs : List Char} {ts : List Token}
    (hw : ∀ c ∈ w, separates c = true) (h : LexesUpTo behind cs ts) :
    LexesUpTo behind (w ++ cs) ts := by
  intro n hn
  obtain ⟨n, rfl⟩ := Nat.exists_eq_add_one_of_ne_zero (Nat.ne_zero_of_lt hn)
  have hlength : cs.length < n + 1 := by
    rw [List.length_append] at hn
    omega
  rw [← h (n + 1) hlength, tokens?, List.length_append, skipBlank_append hw, tokens?]

/-- A character begins neither a comment nor a group, ends none, and is not passed over. -/
def Leads (c : Char) : Prop :=
  c ≠ '/' ∧ separates c = false ∧ Delimiter.ofOpening? c = none ∧ Delimiter.ofClosing? c = none

instance (c : Char) : Decidable (Leads c) := inferInstanceAs (Decidable (_ ∧ _))

theorem leads_of_not_unnamed {c : Char} (hc : ¬Unnamed c) : Leads c := by
  have hne : ∀ d : Char, Unnamed d → c ≠ d := by
    rintro d hd rfl
    exact hc hd
  refine ⟨hne '/' (by decide), ?_, ?_, ?_⟩
  · rw [Bool.eq_false_iff]
    exact fun h => hc (unnamed_of_separates h).1
  · rw [Delimiter.ofOpening?, List.find?_eq_none]
    intro d _ hd
    exact hne d.opening (by cases d <;> decide) (beq_iff_eq.mp hd).symm
  · rw [Delimiter.ofClosing?, List.find?_eq_none]
    intro d _ hd
    exact hne d.closing (by cases d <;> decide) (beq_iff_eq.mp hd).symm

/-- **A token in front** of a text stands in front of its tokens. -/
theorem LexesUpTo.token {c : Char} {behind cs rest : List Char} {t : Token} {ts : List Token}
    (hc : Leads c) (ht : leaf? (c :: cs) = some (t, rest)) (hrest : rest.length ≤ cs.length)
    (h : LexesUpTo behind rest ts) : LexesUpTo behind (c :: cs) (t :: ts) := by
  intro n hn
  obtain ⟨n, rfl⟩ := Nat.exists_eq_add_one_of_ne_zero (Nat.ne_zero_of_lt hn)
  have hopen : openingOf? (c :: cs) = none := by
    rw [openingOf?, List.head?_cons, Option.bind_some, hc.2.2.1, ite_self]
  have hn' : rest.length < n := by
    rw [List.length_cons] at hn
    omega
  -- Nothing is passed over, no documentation begins, and no group is opened or closed.
  rw [tokens?, skipBlank_cons hc.1 hc.2.1]
  dsimp only
  rw [documentation?_cons hc.1]
  dsimp only
  rw [hopen]
  dsimp only
  rw [hc.2.2.2, if_neg (by simp), ht]
  dsimp only
  rw [h n hn']
  rfl

/-! ## Groups -/

/-- A delimiter that opens a group is no slash and no white space. -/
theorem opening_delimits (d : Delimiter) : d.opening ≠ '/' ∧ separates d.opening = false ∧
    Delimiter.ofOpening? d.opening = some d := by
  cases d <;> decide

/-- Nor is one that closes a group, and it opens none. -/
theorem closing_delimits (d : Delimiter) : d.closing ≠ '/' ∧ separates d.closing = false ∧
    Delimiter.ofOpening? d.closing = none ∧ Delimiter.ofClosing? d.closing = some d := by
  cases d <;> decide

/-- There are no tokens in front of a delimiter that closes a group. -/
theorem lexesUpTo_closing (d : Delimiter) (rest : List Char) :
    LexesUpTo (d.closing :: rest) (d.closing :: rest) [] := by
  intro n hn
  obtain ⟨n, rfl⟩ := Nat.exists_eq_add_one_of_ne_zero (Nat.ne_zero_of_lt hn)
  obtain ⟨hslash, hblank, hopening, hclosing⟩ := closing_delimits d
  have hopen : openingOf? (d.closing :: rest) = none := by
    rw [openingOf?, List.head?_cons, Option.bind_some, hopening, ite_self]
  rw [tokens?, skipBlank_cons hslash hblank]
  dsimp only
  rw [documentation?_cons hslash]
  dsimp only
  rw [hopen]
  dsimp only
  rw [hclosing, if_pos (Option.isSome_some)]

/-- What stands for a literal that could not be written has a slash behind its parenthesis. -/
theorem unknownLiteral_eq : ∃ tail, unknownLiteral = '(' :: '/' :: tail :=
  ⟨_, String.toList_ofList⟩

theorem openingOf?_opening (d : Delimiter) {cs : List Char} (hslash : cs.head? ≠ some '/') :
    openingOf? (d.opening :: cs) = some d := by
  obtain ⟨tail, hunknown⟩ := unknownLiteral_eq
  have hnot : ¬unknownLiteral.isPrefixOf (d.opening :: cs) = true := by
    rw [hunknown, List.isPrefixOf_iff_prefix, List.cons_prefix_cons]
    rintro ⟨-, rest, rfl⟩
    exact hslash rfl
  rw [openingOf?, if_neg hnot, List.head?_cons, Option.bind_some, (opening_delimits d).2.2]

/-- **A group in front** of a text stands in front of its tokens.  The tokens of the group are those up
to the delimiter that closes it. -/
theorem LexesUpTo.group {d : Delimiter} {behind inner rest : List Char} {us ts : List Token}
    (hslash : (inner ++ d.closing :: rest).head? ≠ some '/')
    (hinner : LexesUpTo (d.closing :: rest) (inner ++ d.closing :: rest) us)
    (h : LexesUpTo behind rest ts) :
    LexesUpTo behind (d.opening :: (inner ++ d.closing :: rest)) (.group d us :: ts) := by
  intro n hn
  obtain ⟨n, rfl⟩ := Nat.exists_eq_add_one_of_ne_zero (Nat.ne_zero_of_lt hn)
  obtain ⟨hopening, hblank, -⟩ := opening_delimits d
  rw [List.length_cons] at hn
  have hlength : rest.length < n := by
    rw [List.length_append, List.length_cons] at hn
    omega
  rw [tokens?, skipBlank_cons hopening hblank]
  dsimp only
  rw [documentation?_cons hopening]
  dsimp only
  rw [openingOf?_opening d hslash]
  dsimp only
  rw [hinner n (by omega)]
  dsimp only
  rw [if_pos (beq_self_eq_true d.closing), h n hlength]
  rfl

end DataContract.Marker.Lexer
