import DataContract.Proofs.Marker.Lexing
import Mathlib.Data.List.TakeWhile

/-!
# Identifiers and literals as tokens

What is written for an identifier, a mark, a number or a string is one token, if something stands
behind it that ends the token.

* An identifier may begin like a literal: `r`, `b` and `c` open strings as well.  But a literal needs a
  quote or a hash behind such letters, and no identifier contains one (`leaf?_identifier`).
* The digits of a number are an integer and no float (`leaf?_digits`).
* A string in quotes, in which only backslashes, quotes and carriage returns are escaped, is read as
  it is, whatever stands in it (`leaf?_quoted`).
-/

namespace DataContract.Marker.Lexer

open Text

variable {c : Char} {cs rest : List Char}

/-! ## What begins with no digit is no number -/

theorem float?_of_not_isDigit (hc : c.isDigit = false) (cs : List Char) :
    float? (c :: cs) = none := by
  rw [float?, floatDigits?, hc]
  rfl

/-- The digits below ten are the decimal ones. -/
theorem isDigit_of_hexDigit? {d : Nat} (h : hexDigit? c = some d) (hd : d < 10) :
    c.isDigit = true := by
  rw [hexDigit?] at h
  split at h
  · rename_i hrange
    simpa [Char.isDigit, Char.le_def] using hrange
  · split at h
    · have := Option.some.inj h
      omega
    · split at h
      · have := Option.some.inj h
        omega
      · cases h

theorem hexDigit?_of_isDigit (hc : c.isDigit = true) : hexDigit? c = some (c.toNat - '0'.toNat) := by
  have hrange : ('0' ≤ c && c ≤ '9') = true := by
    simpa [Char.isDigit, Char.le_def] using hc
  rw [hexDigit?, if_pos hrange]

theorem baseDigits?_of_not_isDigit (hc : c.isDigit = false) (cs : List Char) :
    baseDigits? 10 (c :: cs) false 0 = none := by
  rw [baseDigits?]
  split
  · rfl
  · cases hd : hexDigit? c with
    | none => rfl
    | some d =>
      have hlarge : ¬d < 10 := by
        intro hlt
        rw [isDigit_of_hexDigit? hd hlt] at hc
        cases hc
      dsimp only
      rw [if_neg hlarge, hc]
      rfl

theorem integer?_of_not_isDigit (hc : c.isDigit = false) (cs : List Char) :
    integer? (c :: cs) = none := by
  have hzero : c ≠ '0' := by
    rintro rfl
    exact absurd hc (by decide)
  rw [integer?, baseDigits?_of_not_isDigit hc]
  all_goals exact fun _ heq => hzero (List.head_eq_of_cons_eq heq)

/-! ## Marks -/

/-- An equals sign, a comma, a minus sign and a point are marks. -/
theorem leaf?_mark (hc : c ∈ ['=', ',', '-', '.']) (cs : List Char) :
    leaf? (c :: cs) = some (.punct c (mark? cs).isSome, cs) := by
  simp only [List.mem_cons, List.not_mem_nil, or_false] at hc
  rcases hc with rfl | rfl | rfl | rfl <;> rfl

/-! ## Identifiers -/

/-- The characters of an identifier that is not raw. -/
def IsWord : List Char → Prop
  | [] => False
  | c :: cs => beginsIdent c = true ∧ ∀ d ∈ cs, continuesIdent d = true

instance : DecidablePred IsWord
  | [] => isFalse not_false
  | c :: cs =>
    decidable_of_iff ((beginsIdent c && cs.all continuesIdent) = true) <| by
      rw [Bool.and_eq_true, List.all_eq_true, IsWord]

theorem IsWord.continues (h : IsWord cs) : ∀ d ∈ cs, continuesIdent d = true := by
  cases cs with
  | nil => exact h.elim
  | cons c cs => exact List.forall_mem_cons.mpr ⟨continuesIdent_of_beginsIdent h.1, h.2⟩

theorem spanIdent?_eq_some_nil {name : List Char} (h : spanIdent? cs = some (name, [])) :
    name = cs ∧ IsWord cs := by
  cases cs with
  | nil => cases h
  | cons c cs =>
    rw [spanIdent?] at h
    split at h
    case isTrue hbegins =>
      rw [List.span_eq_takeWhile_dropWhile, Option.some.injEq, Prod.mk.injEq] at h
      obtain ⟨hname, hnone⟩ := h
      refine ⟨?_, hbegins, fun d hd => ?_⟩
      · rw [← hname, ← List.append_nil (List.takeWhile _ _), ← hnone, List.takeWhile_append_dropWhile]
      · exact List.dropWhile_eq_nil_iff.mp hnone d (List.mem_cons_of_mem _ hd)
    case isFalse => cases h

theorem spanIdent?_append (hcs : IsWord cs) (h : Stops rest) :
    spanIdent? (cs ++ rest) = some (cs, rest) := by
  have hspan := h.span (fun _ hc => hc) hcs.continues
  cases cs with
  | nil => exact hcs.elim
  | cons c cs =>
    rw [List.cons_append, spanIdent?, if_pos hcs.1, List.span_eq_takeWhile_dropWhile,
      ← List.cons_append, hspan.1, hspan.2]

/-- No quote and no hash stands at the front. -/
def Quiet (cs : List Char) : Prop := ∀ c ∈ cs.head?, c ≠ '"' ∧ c ≠ '#' ∧ c ≠ '\''

theorem quiet_of_continues (hc : continuesIdent c = true) (cs : List Char) : Quiet (c :: cs) := by
  rintro _ ⟨⟩
  have hne : ∀ d : Char, Unnamed d → c ≠ d := by
    rintro d hd rfl
    exact not_unnamed hc hd
  exact ⟨hne _ (by decide), hne _ (by decide), hne _ (by decide)⟩

theorem Stops.quiet (h : Stops rest) : Quiet rest := by
  intro c hc
  have hmem := (h c hc).2
  simp only [List.mem_cons, List.not_mem_nil, or_false, not_or] at hmem
  exact hmem

/-- Inside of an identifier and behind it there is no quote and no hash. -/
theorem quiet_append (hcs : ∀ d ∈ cs, continuesIdent d = true) (h : Stops rest) :
    Quiet (cs ++ rest) := by
  cases cs with
  | nil => exact h.quiet
  | cons c cs => exact quiet_of_continues (hcs c (List.mem_cons_self ..)) _

theorem raw?_of_quiet (h : Quiet cs) (sort : StringSort) : raw? sort cs = none := by
  cases cs with
  | nil => rfl
  | cons c cs =>
    obtain ⟨hquote, hhash, -⟩ := h c rfl
    rw [raw?, rawOpening?, List.span_eq_takeWhile_dropWhile,
      List.takeWhile_cons_of_neg (by simp [hhash]), List.dropWhile_cons_of_neg (by simp [hhash])]
    simp [hquote]

theorem raw?_hash_of_quiet (h : Quiet cs) (sort : StringSort) : raw? sort ('#' :: cs) = none := by
  cases cs with
  | nil => rfl
  | cons c cs =>
    obtain ⟨hquote, hhash, -⟩ := h c rfl
    rw [raw?, rawOpening?, List.span_eq_takeWhile_dropWhile, List.takeWhile_cons_of_pos rfl,
      List.dropWhile_cons_of_pos rfl,
      List.takeWhile_cons_of_neg (by simp [hhash]), List.dropWhile_cons_of_neg (by simp [hhash])]
    simp [hquote]

theorem stringLiteral?_of_quiet (hc : c ≠ '"') (h : Quiet cs)
    (htail : ∀ tail, cs = 'r' :: tail → Quiet tail) : stringLiteral? (c :: cs) = none := by
  rw [stringLiteral?.eq_def]
  split
  case h_1 heq => exact absurd (List.head_eq_of_cons_eq heq) hc
  case h_2 heq =>
    obtain ⟨rfl, rfl⟩ := List.cons.inj heq
    rw [raw?_of_quiet h]
    rfl
  case h_3 heq =>
    obtain ⟨rfl, rfl⟩ := List.cons.inj heq
    exact absurd rfl (h _ rfl).1
  case h_4 heq =>
    obtain ⟨rfl, rfl⟩ := List.cons.inj heq
    rw [raw?_of_quiet (htail _ rfl)]
    rfl
  case h_5 heq =>
    obtain ⟨rfl, rfl⟩ := List.cons.inj heq
    exact absurd rfl (h _ rfl).1
  case h_6 heq =>
    obtain ⟨rfl, rfl⟩ := List.cons.inj heq
    rw [raw?_of_quiet (htail _ rfl)]
    rfl
  case h_7 => rfl

theorem charLiteral?_of_quiet (hc : c ≠ '\'') (h : Quiet cs) :
    charLiteral? (c :: cs) = none := by
  rw [charLiteral?.eq_def]
  split
  case h_1 heq =>
    obtain ⟨rfl, rfl⟩ := List.cons.inj heq
    exact absurd rfl (h _ rfl).2.2
  case h_2 heq => exact absurd (List.head_eq_of_cons_eq heq) hc
  case h_3 => rfl

theorem not_literalStarts_of_quiet (h : Quiet cs)
    (htail : ∀ tail, cs = 'r' :: tail → Quiet tail) :
    literalStarts.any (·.isPrefixOf (c :: cs)) = false := by
  cases cs with
  | nil => simp [literalStarts, List.isPrefixOf]
  | cons d cs =>
    obtain ⟨hquote, hhash, htick⟩ := h d rfl
    by_cases hraw : d = 'r'
    · subst hraw
      cases cs with
      | nil => simp [literalStarts, List.isPrefixOf]
      | cons d' cs =>
        obtain ⟨hquote', hhash', -⟩ := htail _ rfl d' rfl
        simp [literalStarts, List.isPrefixOf, hquote'.symm, hhash'.symm]
    · simp [literalStarts, List.isPrefixOf, hquote.symm, hhash.symm, htick.symm, Ne.symm hraw]

theorem not_literalStarts_hash_of_quiet (h : Quiet cs) :
    literalStarts.any (·.isPrefixOf ('r' :: '#' :: cs)) = false := by
  cases cs with
  | nil => simp [literalStarts, List.isPrefixOf]
  | cons d cs =>
    obtain ⟨hquote, hhash, -⟩ := h d rfl
    simp [literalStarts, List.isPrefixOf, hquote.symm, hhash.symm]

theorem anyIdent?_of_quiet (h : Quiet cs) :
    anyIdent? (c :: cs) =
      (spanIdent? (c :: cs)).map fun (name, rest) => (.ident (String.ofList name) false, rest) := by
  rw [anyIdent?]
  rintro tail ⟨⟩
  exact (h '#' rfl).2.1 rfl

theorem IsWord.anyIdent? (h : IsWord cs) :
    anyIdent? cs = some (.ident (String.ofList cs) false, []) := by
  have hspan := spanIdent?_append h closes_nil.stops
  cases cs with
  | nil => exact h.elim
  | cons c cs =>
    have hquiet := quiet_append h.2 closes_nil.stops
    rw [List.append_nil] at hspan hquiet
    rw [anyIdent?_of_quiet hquiet, hspan]
    rfl

/-- The characters of an identifier, which is raw or not. -/
theorem anyIdent?_eq_some_nil {name : List Char} {t : Token} (h : anyIdent? name = some (t, [])) :
    (IsWord name ∧ t = .ident (String.ofList name) false) ∨
      ∃ word, name = 'r' :: '#' :: word ∧ IsWord word ∧
        neverRaw.contains (String.ofList word) = false ∧ t = .ident (String.ofList word) true := by
  rw [anyIdent?.eq_def] at h
  split at h
  case h_1 word =>
    right
    split at h
    case h_1 hspan =>
      dsimp only at h
      split at h
      case isTrue => cases h
      case isFalse hraw =>
        rw [Option.some.injEq, Prod.mk.injEq] at h
        obtain ⟨rfl, rfl⟩ := h
        obtain ⟨rfl, hword⟩ := spanIdent?_eq_some_nil hspan
        exact ⟨_, rfl, hword, Bool.eq_false_iff.mpr hraw, rfl⟩
    case h_2 => cases h
  case h_2 =>
    left
    obtain ⟨⟨word, rest⟩, hspan, h⟩ := Option.map_eq_some_iff.mp h
    rw [Prod.mk.injEq] at h
    obtain ⟨rfl, rfl⟩ := h
    obtain ⟨rfl, hword⟩ := spanIdent?_eq_some_nil hspan
    exact ⟨hword, rfl⟩

theorem mark?_of_beginsIdent (hc : beginsIdent c = true) (cs : List Char) :
    mark? (c :: cs) = none := by
  have hmarks : ∀ d ∈ marks, Unnamed d := List.all_iff_forall_prop.mp (by decide)
  have hmem : c ∉ marks := fun hmem =>
    not_unnamed (continuesIdent_of_beginsIdent hc) (hmarks c hmem)
  have hslash : c ≠ '/' := by
    rintro rfl
    exact hmem (by decide)
  rw [mark?, if_neg (by simpa using hmem)]
  all_goals exact fun _ heq _ => hslash heq

/-- What begins no literal and no mark is an identifier if it is one. -/
theorem leaf?_of_anyIdent? {t : Token} (hc : beginsIdent c = true)
    (hstring : stringLiteral? (c :: cs) = none) (hchar : charLiteral? (c :: cs) = none)
    (hstarts : literalStarts.any (·.isPrefixOf (c :: cs)) = false)
    (h : anyIdent? (c :: cs) = some (t, rest)) : leaf? (c :: cs) = some (t, rest) := by
  have hdigit : c.isDigit = false := by
    rw [Bool.eq_false_iff]
    intro hdigit
    rw [not_beginsIdent_of_isDigit hdigit] at hc
    cases hc
  rw [leaf?, literal?, hstring, hchar, float?_of_not_isDigit hdigit, integer?_of_not_isDigit hdigit,
    punct?, mark?_of_beginsIdent hc, ident?, hstarts, if_neg Bool.false_ne_true, h]
  rfl

/-- Behind the first letter of an identifier an `r` opens no string. -/
theorem quiet_of_append_eq (hcs : ∀ d ∈ cs, continuesIdent d = true) (h : Stops rest)
    {tail : List Char} (heq : cs ++ rest = 'r' :: tail) : Quiet tail := by
  cases cs with
  | nil =>
    rw [List.nil_append] at heq
    rw [heq] at h
    exact absurd h.unnamed (by decide)
  | cons d cs =>
    obtain ⟨-, rfl⟩ := List.cons.inj heq
    exact quiet_append (List.forall_mem_cons.mp hcs).2 h

theorem leaf?_word (hword : IsWord cs) (h : Stops rest) :
    leaf? (cs ++ rest) = some (.ident (String.ofList cs) false, rest) := by
  have hspan := spanIdent?_append hword h
  cases cs with
  | nil => exact hword.elim
  | cons c cs =>
    have hquiet := quiet_append hword.2 h
    have htail : ∀ tail, cs ++ rest = 'r' :: tail → Quiet tail :=
      fun _ => quiet_of_append_eq hword.2 h
    obtain ⟨hquote, -, htick⟩ :=
      quiet_of_continues (continuesIdent_of_beginsIdent hword.1) cs c rfl
    rw [List.cons_append] at hspan ⊢
    refine leaf?_of_anyIdent? hword.1 (stringLiteral?_of_quiet hquote hquiet htail)
      (charLiteral?_of_quiet htick hquiet) (not_literalStarts_of_quiet hquiet htail) ?_
    rw [anyIdent?_of_quiet hquiet, hspan]
    rfl

theorem leaf?_raw (hword : IsWord cs) (hraw : neverRaw.contains (String.ofList cs) = false)
    (h : Stops rest) :
    leaf? ('r' :: '#' :: cs ++ rest) = some (.ident (String.ofList cs) true, rest) := by
  have hquiet := quiet_append hword.continues h
  have hspan := spanIdent?_append hword h
  rw [List.cons_append, List.cons_append]
  refine leaf?_of_anyIdent? (by decide +kernel) ?_ ?_ (not_literalStarts_hash_of_quiet hquiet) ?_
  · rw [stringLiteral?, raw?_hash_of_quiet hquiet]
    rfl
  · rfl
  · rw [anyIdent?, hspan]
    dsimp only
    rw [hraw]
    rfl

/-- **An identifier is one token.** -/
theorem leaf?_identifier {name : List Char} {t : Token} (hname : anyIdent? name = some (t, []))
    (h : Stops rest) : leaf? (name ++ rest) = some (t, rest) := by
  obtain ⟨hword, rfl⟩ | ⟨word, rfl, hword, hraw, rfl⟩ := anyIdent?_eq_some_nil hname
  · exact leaf?_word hword h
  · exact leaf?_raw hword hraw h

/-! ## Numbers -/

theorem Closes.numberEnd? (h : Closes rest) : numberEnd? rest = some ([], rest) := by
  have hhead : rest.head?.any continuesIdent = false := by
    cases rest with
    | nil => rfl
    | cons c rest => exact h.unnamed.not_continuesIdent
  rw [Lexer.numberEnd?, h.stops.spanSuffix]
  dsimp only
  rw [hhead, if_neg Bool.false_ne_true]

/-- Decimal digits are read up to what closes the number. -/
theorem baseDigits?_append (hcs : ∀ c ∈ cs, c.isDigit = true) (h : Closes rest) (begun : Bool)
    (hbegun : begun = true ∨ cs ≠ []) (value : Nat) :
    baseDigits? 10 (cs ++ rest) begun value = some (Nat.ofDigitChars 10 cs value, rest) := by
  induction cs generalizing begun value with
  | nil =>
    obtain rfl : begun = true := hbegun.resolve_right (by simp)
    cases rest with
    | nil => rfl
    | cons c rest =>
      have hnone : hexDigit? c = none := not_not.mp fun hsome =>
        not_unnamed (continuesIdent_of_hexDigit (Or.inr hsome)) h.unnamed
      have hne : c ≠ '_' := by
        rintro rfl
        exact absurd h.unnamed (by decide)
      rw [List.nil_append, baseDigits?, if_neg (by simpa using hne), hnone]
      rfl
  | cons c cs ih =>
    obtain ⟨hc, hcs⟩ := List.forall_mem_cons.mp hcs
    have hne : c ≠ '_' := by
      rintro rfl
      exact absurd hc (by decide)
    have hlt : c.toNat - '0'.toNat < 10 := by
      have hhigh := (Char.isDigit_iff_toNat.mp hc).2
      have h0 : '0'.toNat = 48 := rfl
      have h9 : '9'.toNat = 57 := rfl
      omega
    rw [List.cons_append, baseDigits?, if_neg (by simpa using hne), hexDigit?_of_isDigit hc]
    dsimp only
    rw [if_pos hlt, ih hcs true (Or.inl rfl)]
    rfl

theorem continuesIdent_of_isDigit (hc : c.isDigit = true) : continuesIdent c = true :=
  continuesIdent_of_hexDigit (Or.inl (by rw [isDigitMark, hc, Bool.true_or]))

/-- Digits without a point or an exponent are no float. -/
theorem float?_append (hc : c.isDigit = true) (hcs : ∀ c ∈ cs, c.isDigit = true) (h : Closes rest) :
    float? (c :: cs ++ rest) = none := by
  have hdrop : (c :: cs ++ rest).dropWhile isDigitMark = rest :=
    (h.stops.span (fun _ hd => continuesIdent_of_hexDigit (Or.inl hd))
      (List.forall_mem_cons.mpr ⟨by rw [isDigitMark, hc, Bool.true_or],
        fun d hd => by rw [isDigitMark, hcs d hd, Bool.true_or]⟩)).2
  have hnone : floatDigits? (c :: cs ++ rest) = none := by
    rw [List.cons_append] at hdrop ⊢
    rw [floatDigits?, hc, hdrop, Bool.not_true, if_neg Bool.false_ne_true]
    -- What closes the number is neither a point nor the letter of an exponent.
    split
    case h_1 => exact absurd rfl h.ne_point
    case h_2 d _ _ =>
      rw [if_neg]
      rw [Bool.or_eq_true, beq_iff_eq, beq_iff_eq]
      rintro (rfl | rfl) <;> exact absurd h.unnamed (by decide)
    case h_3 => rfl
  rw [float?, hnone]

/-- Digits are an integer in base ten, since no letter for another base stands behind the first. -/
theorem integer?_append (hc : c.isDigit = true) (hcs : ∀ c ∈ cs, c.isDigit = true)
    (h : Closes rest) :
    integer? (c :: cs ++ rest) =
      some (.integer (Nat.ofDigitChars 10 (c :: cs) 0) "", rest) := by
  have hplain : ∀ d ∈ ['x', 'o', 'b'], d.isDigit = false ∧ ¬Unnamed d :=
    List.all_iff_forall_prop.mp (by decide)
  have hletter : ∀ d ∈ ['x', 'o', 'b'], ∀ tail, c :: cs ++ rest ≠ '0' :: d :: tail := by
    intro d hd tail heq
    have hheads : cs ++ rest = d :: tail := (List.cons.inj heq).2
    have hdigit := hplain d hd
    cases cs with
    | nil =>
      rw [List.nil_append] at hheads
      rw [hheads] at h
      exact hdigit.2 h.unnamed
    | cons d' cs =>
      have hd' := hcs d' (List.mem_cons_self ..)
      rw [(List.cons.inj hheads).1, hdigit.1] at hd'
      cases hd'
  have hread := baseDigits?_append (List.forall_mem_cons.mpr ⟨hc, hcs⟩) h false
    (Or.inr (List.cons_ne_nil c cs)) 0
  rw [integer?, hread]
  · dsimp only
    rw [h.numberEnd?]
    rfl
  · exact hletter 'x' (by simp)
  · exact hletter 'o' (by simp)
  · exact hletter 'b' (by simp)

/-- **Decimal digits are one token.** -/
theorem leaf?_digits (n : Nat) (h : Closes rest) :
    leaf? (Nat.toDigits 10 n ++ rest) = some (.literal (.integer n ""), rest) := by
  have hdigits : ∀ c ∈ Nat.toDigits 10 n, c.isDigit = true := fun c hc =>
    Nat.isDigit_of_mem_toDigits (by decide) (by decide) hc
  have hvalue := Nat.ofDigitChars_toDigits (b := 10) (n := n) (by decide) (by decide)
  obtain ⟨c, cs, hcs⟩ := List.exists_cons_of_ne_nil (Nat.toDigits_ne_nil (b := 10) (n := n))
  rw [hcs] at hvalue hdigits ⊢
  obtain ⟨hc, htail⟩ := List.forall_mem_cons.mp hdigits
  have hne : ∀ d, d.isDigit = false → c ≠ d := by
    rintro d hd rfl
    rw [hc] at hd
    cases hd
  have hstring : stringLiteral? (c :: cs ++ rest) = none := by
    rw [List.cons_append, stringLiteral?.eq_def]
    split
    case h_7 => rfl
    all_goals exact absurd (List.head_eq_of_cons_eq ‹_›) (hne _ (by decide))
  have hchar : charLiteral? (c :: cs ++ rest) = none := by
    rw [List.cons_append, charLiteral?.eq_def]
    split
    case h_3 => rfl
    all_goals exact absurd (List.head_eq_of_cons_eq ‹_›) (hne _ (by decide))
  rw [leaf?, literal?, hstring, hchar, float?_append hc htail h, integer?_append hc htail h, hvalue]
  rfl

/-! ## Strings -/

/-- A character as it is written in a string: a backslash, a quote and a carriage return are escaped. -/
def escape (c : Char) : List Char :=
  if c = '\\' then ['\\', '\\']
  else if c = '"' then ['\\', '"']
  else if c = '\r' then ['\\', 'r']
  else [c]

/-- A string as it is written, with its quotes. -/
def quote (s : String) : List Char := '"' :: s.toList.flatMap escape ++ ['"']

theorem length_le_flatMap_escape (cs : List Char) : cs.length ≤ (cs.flatMap escape).length := by
  have hpos : ∀ c, 0 < (escape c).length := fun c => by
    rw [escape]
    split_ifs <;> simp
  induction cs with
  | nil => exact Nat.le_refl 0
  | cons c cs ih =>
    rw [List.flatMap_cons, List.length_append, List.length_cons]
    have := hpos c
    omega

/-- One character is read back, whatever stands behind it. -/
theorem cooked?_escape (c : Char) (n : Nat) (cs : List Char) :
    cooked? .text (n + 1) (escape c ++ cs) = consText c (cooked? .text n cs) := by
  rw [escape]
  split_ifs with hback hquote hreturn
  · subst hback
    rfl
  · subst hquote
    rfl
  · subst hreturn
    rfl
  · rw [List.singleton_append, cooked?]
    · rfl
    all_goals grind

theorem cooked?_flatMap_escape (cs rest : List Char) {n : Nat} (hn : cs.length < n) :
    cooked? .text n (cs.flatMap escape ++ '"' :: rest) = some (cs, rest) := by
  induction cs generalizing n with
  | nil =>
    obtain ⟨n, rfl⟩ := Nat.exists_eq_add_one_of_ne_zero (Nat.ne_zero_of_lt hn)
    rfl
  | cons c cs ih =>
    obtain ⟨n, rfl⟩ := Nat.exists_eq_add_one_of_ne_zero (Nat.ne_zero_of_lt hn)
    rw [List.flatMap_cons, List.append_assoc, cooked?_escape, ih (Nat.lt_of_succ_lt_succ hn)]
    rfl

/-- **A string is one token**, whatever stands in it. -/
theorem leaf?_quoted (s : String) (h : Stops rest) :
    leaf? (quote s ++ rest) = some (.literal (.string s), rest) := by
  have hlength : s.toList.length < (s.toList.flatMap escape ++ '"' :: rest).length + 1 := by
    have := length_le_flatMap_escape s.toList
    rw [List.length_append]
    omega
  have hstring : stringLiteral? (quote s ++ rest) = some (.string s, rest) := by
    rw [quote, List.append_assoc, List.cons_append, List.singleton_append, stringLiteral?]
    dsimp only
    rw [cooked?_flatMap_escape s.toList rest hlength, Option.map_some, h.spanSuffix,
      String.ofList_toList]
  rw [leaf?, literal?, hstring]
  rfl

/-! ## Tokens in front of others -/

variable {behind : List Char} {t : Token} {ts : List Token}

theorem LexesUpTo.leaf (hc : Leads c) (ht : leaf? (c :: cs ++ rest) = some (t, rest))
    (h : LexesUpTo behind rest ts) : LexesUpTo behind (c :: cs ++ rest) (t :: ts) := by
  refine LexesUpTo.token hc ht ?_ h
  rw [List.append_eq, List.length_append]
  exact Nat.le_add_left ..

/-- Every identifier begins with a character that identifiers begin with. -/
theorem head_of_anyIdent? {name : List Char} (h : anyIdent? name = some (t, [])) :
    ∃ c cs, name = c :: cs ∧ beginsIdent c = true := by
  obtain ⟨hword, -⟩ | ⟨word, rfl, -⟩ := anyIdent?_eq_some_nil h
  · cases name with
    | nil => exact hword.elim
    | cons c cs => exact ⟨c, cs, rfl, hword.1⟩
  · exact ⟨'r', '#' :: word, rfl, by decide +kernel⟩

theorem head?_append_of_anyIdent? {name : List Char} (h : anyIdent? name = some (t, []))
    (hc : beginsIdent c = false) (rest : List Char) : (name ++ rest).head? ≠ some c := by
  obtain ⟨d, cs, rfl, hd⟩ := head_of_anyIdent? h
  rintro ⟨⟩
  rw [hd] at hc
  cases hc

theorem LexesUpTo.identifier {name : List Char} (hname : anyIdent? name = some (t, []))
    (hrest : Stops rest) (h : LexesUpTo behind rest ts) :
    LexesUpTo behind (name ++ rest) (t :: ts) := by
  have ht := leaf?_identifier hname hrest
  obtain ⟨c, cs, rfl, hc⟩ := head_of_anyIdent? hname
  exact h.leaf (leads_of_not_unnamed (not_unnamed (continuesIdent_of_beginsIdent hc))) ht

theorem LexesUpTo.mark (hc : c ∈ ['=', ',', '-', '.']) (h : LexesUpTo behind rest ts) :
    LexesUpTo behind (c :: rest) (.punct c (mark? rest).isSome :: ts) := by
  have hleads : ∀ d ∈ ['=', ',', '-', '.'], Leads d := List.all_iff_forall_prop.mp (by decide)
  exact LexesUpTo.token (hleads c hc) (leaf?_mark hc rest) (Nat.le_refl _) h

theorem LexesUpTo.digits (n : Nat) (hrest : Closes rest) (h : LexesUpTo behind rest ts) :
    LexesUpTo behind (Nat.toDigits 10 n ++ rest) (.literal (.integer n "") :: ts) := by
  have ht := leaf?_digits n hrest
  obtain ⟨c, cs, hcs⟩ := List.exists_cons_of_ne_nil (Nat.toDigits_ne_nil (b := 10) (n := n))
  have hc : c.isDigit = true := Nat.isDigit_of_mem_toDigits (b := 10) (n := n) (by decide) (by decide)
    (hcs ▸ List.mem_cons_self ..)
  rw [hcs] at ht ⊢
  exact h.leaf (leads_of_not_unnamed (not_unnamed (continuesIdent_of_isDigit hc))) ht

theorem LexesUpTo.quote (s : String) (hrest : Stops rest) (h : LexesUpTo behind rest ts) :
    LexesUpTo behind (quote s ++ rest) (.literal (.string s) :: ts) :=
  h.leaf (by decide) (leaf?_quoted s hrest)

end DataContract.Marker.Lexer
