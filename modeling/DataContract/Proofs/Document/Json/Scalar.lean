import DataContract.Document.Json.Read
import DataContract.Document.Json.Write
import DataContract.Proofs.UnitName.Reading
import Mathlib.Data.List.TakeDrop

/-!
# Strings and integers in JSON

What is written for a string or an integer is read back as the same string or integer, and nothing
of the text behind it is touched.

* A string is read up to its closing quote.  No escape has a quote in a place where it would be
  taken for one, so this holds whatever follows (`readText_escaped`).
* An integer has no closing character.  It is read as it was written if what follows cannot belong
  to a number, which is so wherever a document may end (`readNumber_toString`).
-/

namespace DataContract.Document.Json

/-! ## Strings -/

/-- The escape of a control character is read as that character. -/
theorem ofCode_control {n : Nat} (hn : n < 0x20) :
    (hexNumber? ['0', '0', hexDigit (n / 16), hexDigit (n % 16)]).map Piece.ofCode =
      some (.whole (Char.ofNat n)) := by
  revert n
  decide

/-- A character that is not escaped is read as itself. -/
theorem pieces_cons {c : Char} (hquote : c ≠ '"') (hescape : c ≠ '\\') (hc : ¬c.toNat < 0x20)
    {cs rest : List Char} {ps : List Piece} (h : pieces cs = some (ps, rest)) :
    pieces (c :: cs) = some (.whole c :: ps, rest) := by
  rw [pieces, if_neg hc, h]
  · exact hquote
  · exact fun _ _ _ _ _ heq _ => hescape heq
  · exact fun _ _ heq _ => hescape heq

/-- What stands for a character is read as that character. -/
theorem pieces_escapeChar (c : Char) {cs rest : List Char} {ps : List Piece}
    (h : pieces cs = some (ps, rest)) :
    pieces (escapeChar c ++ cs) = some (.whole c :: ps, rest) := by
  rw [escapeChar.eq_def]
  split
  case h_8 hquote hescape _ _ _ _ _ =>
    by_cases hc : c.toNat < 0x20
    · have hcode := ofCode_control hc
      rw [Char.ofNat_toNat] at hcode
      obtain ⟨n, hn, hpiece⟩ := Option.map_eq_some_iff.mp hcode
      rw [if_pos hc]
      simp [pieces, hn, h, hpiece]
    · rw [if_neg hc]
      exact pieces_cons hquote hescape hc h
  all_goals simp [pieces, namedEscape?, h]

/-- Escaped characters are read up to the closing quote. -/
theorem pieces_escaped (cs rest : List Char) :
    pieces (cs.flatMap escapeChar ++ '"' :: rest) = some (cs.map .whole, rest) := by
  induction cs with
  | nil => rfl
  | cons c cs ih =>
    rw [List.flatMap_cons, List.append_assoc, List.map_cons]
    exact pieces_escapeChar c ih

theorem join_whole (cs : List Char) : join (cs.map .whole) = some cs := by
  induction cs with
  | nil => rfl
  | cons c cs ih => rw [List.map_cons, join, ih, Option.map_some]

/-- **A string is read as it was written.** -/
theorem readText_escaped (s : String) (rest : List Char) :
    readText (s.toList.flatMap escapeChar ++ '"' :: rest) = some (some s, rest) := by
  rw [readText, pieces_escaped, Option.map_some]
  dsimp only
  rw [join_whole, Option.map_some, String.ofList_toList]

/-! ## Integers -/

/-- Whether a text may follow a document: it is empty, or begins with a comma or a closing
bracket. -/
def Follows (rest : List Char) : Prop := ∀ c ∈ rest.head?, c = ',' ∨ c = ']' ∨ c = '}'

theorem follows_nil : Follows [] := fun _ h => nomatch h

/-- What follows a document begins with no digit. -/
theorem Follows.spanDigits {rest : List Char} (hrest : Follows rest) {ds : List Char}
    (hds : ∀ d ∈ ds, d.isDigit = true) : spanDigits (ds ++ rest) = (ds, rest) := by
  have hend : rest.takeWhile Char.isDigit = [] ∧ rest.dropWhile Char.isDigit = rest := by
    cases rest with
    | nil => exact ⟨rfl, rfl⟩
    | cons c rest => rcases hrest c rfl with rfl | rfl | rfl <;> exact ⟨rfl, rfl⟩
  rw [Json.spanDigits, List.span_eq_takeWhile_dropWhile, List.takeWhile_append_of_pos hds,
    List.dropWhile_append_of_pos hds, hend.1, hend.2, List.append_nil]

theorem Follows.readFractional {rest : List Char} (hrest : Follows rest) :
    readFractional rest = some ([], rest) := by
  cases rest with
  | nil => rfl
  | cons c rest => rcases hrest c rfl with rfl | rfl | rfl <;> rfl

theorem Follows.readExponent {rest : List Char} (hrest : Follows rest) :
    readExponent rest = some (none, rest) := by
  cases rest with
  | nil => rfl
  | cons c rest => rcases hrest c rfl with rfl | rfl | rfl <;> rfl

theorem isDigit_of_mem_toDigits {n : Nat} {d : Char} (hd : d ∈ Nat.toDigits 10 n) :
    d.isDigit = true :=
  Nat.isDigit_of_mem_toDigits (by decide) (by decide) hd

/-- The digits of a number are all there is before a point, and do not begin with a zero unless that
is all. -/
theorem readWhole_toDigits (n : Nat) {rest : List Char} (hrest : Follows rest) :
    readWhole (Nat.toDigits 10 n ++ rest) = some (Nat.toDigits 10 n, rest) := by
  by_cases hn : n = 0
  · subst hn
    cases rest with
    | nil => rfl
    | cons c rest => rcases hrest c rfl with rfl | rfl | rfl <;> rfl
  · obtain ⟨d, ds, hds, hzero⟩ := UnitName.head_toDigits n hn
    have hspan : spanDigits (Nat.toDigits 10 n ++ rest) = (Nat.toDigits 10 n, rest) :=
      hrest.spanDigits fun _ => isDigit_of_mem_toDigits
    rw [hds, List.cons_append] at hspan ⊢
    rw [readWhole, hspan]
    · exact fun _ _ heq => hzero (List.cons.inj heq).1
    · exact fun _ heq => hzero (List.cons.inj heq).1

theorem digitsValue_toDigits (n : Nat) : digitsValue (Nat.toDigits 10 n) = n :=
  Nat.ofDigitChars_toDigits (by decide) (by decide)

/-- The digits of a number are read as an integer without a point and an exponent. -/
theorem readUnsigned_toDigits (negative : Bool) (n : Nat) {rest : List Char}
    (hrest : Follows rest) :
    readUnsigned negative (Nat.toDigits 10 n ++ rest) =
      (number negative (Nat.toDigits 10 n) [] none, some rest) := by
  rw [readUnsigned, readWhole_toDigits n hrest]
  dsimp only
  rw [hrest.readFractional]
  dsimp only
  rw [hrest.readExponent]

/-- Whether an integer fits a word of 64 bits, signed or unsigned. -/
def IsWord (n : Int) : Prop := -0x8000000000000000 ≤ n ∧ n < 0x10000000000000000

/-- **An integer is read as it was written**, if it fits a word. -/
theorem readNumber_toString {n : Int} (hn : IsWord n) {rest : List Char} (hrest : Follows rest) :
    readNumber ((toString n).toList ++ rest) = (.integer n, some rest) := by
  obtain ⟨hlow, hhigh⟩ := hn
  cases n with
  | ofNat n =>
    have hlt : n < 0x10000000000000000 := Int.ofNat_lt.mp hhigh
    have hlist : (toString (Int.ofNat n)).toList = Nat.toDigits 10 n := Nat.toList_repr
    obtain ⟨d, ds, hds⟩ := List.exists_cons_of_ne_nil (Nat.toDigits_ne_nil (b := 10) (n := n))
    have hplus : d ≠ '-' := by
      rintro rfl
      have hdigit : '-'.isDigit = true := isDigit_of_mem_toDigits (n := n) (by simp [hds])
      cases hdigit
    have hunsigned := readUnsigned_toDigits false n hrest
    rw [hds, List.cons_append] at hunsigned
    rw [hlist, hds, List.cons_append, readNumber, hunsigned, ← hds, number, digitsValue_toDigits]
    · simp [hlt]
    · exact fun _ heq => hplus (List.cons.inj heq).1
  | negSucc n =>
    have hle : n + 1 ≤ 0x8000000000000000 := by omega
    have hlist : (toString (Int.negSucc n)).toList = '-' :: Nat.toDigits 10 (n + 1) := by
      show ("-" ++ (n + 1).repr).toList = _
      rw [String.toList_append, Nat.toList_repr]
      rfl
    rw [hlist, List.cons_append, readNumber, readUnsigned_toDigits true (n + 1) hrest, number,
      digitsValue_toDigits]
    simpa [hle] using (Int.negSucc_eq n).symm

end DataContract.Document.Json
