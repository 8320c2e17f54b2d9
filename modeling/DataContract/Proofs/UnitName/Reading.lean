import DataContract.UnitName

/-!
# Reading a unit name back

An underscore in a flattened name has four meanings, and the character behind it tells which one is
meant: `0` makes it an underscore of the name, any other digit begins the number of type parameters,
and everything else, the end included, makes it the end of a segment.  This only works if no segment
begins with a digit.

* `readSegments` reads the segments of a flattened name in one pass from left to right, and
  `readSegments_flattenSegments` says that it finds the ones that were written.
* `signature_split` and `endings_split` take the ending apart, from right to left: the last letter of
  the engine's ending is no hexadecimal digit, so it shows where the case signature begins.

Together they say that a unit name determines the qualified name and the engine.
-/

namespace DataContract

open Declaration

/-- Whether the name of a segment begins with a digit.  No identifier does. -/
def Declaration.Segment.startsWithDigit (s : Segment) : Bool := s.name.toList.head?.any Char.isDigit

namespace UnitName

/-! ## A reader for segments -/

/-- Where the reader of a flattened name stands, with what it has read of a segment: in the name,
behind an underscore, or in the number of type parameters. -/
inductive ReadState
  | name (read : List Char)
  | underscore (read : List Char)
  | arity (read : List Char) (count : Nat)

/-- The segments of the rest of a flattened name. -/
def readFrom : ReadState → List Char → List Segment
  | .name _, [] => []
  | .underscore read, [] => [⟨String.ofList read, 0⟩]
  | .arity _ _, [] => []
  | .name read, c :: rest =>
    if c = '_' then readFrom (.underscore read) rest else readFrom (.name (read ++ [c])) rest
  | .underscore read, c :: rest =>
    if c = '0' then readFrom (.name (read ++ ['_'])) rest
    else if c.isDigit then readFrom (.arity read (c.toNat - '0'.toNat)) rest
    else
      ⟨String.ofList read, 0⟩ ::
        if c = '_' then readFrom (.underscore []) rest else readFrom (.name [c]) rest
  | .arity read count, c :: rest =>
    if c = '_' then ⟨String.ofList read, count⟩ :: readFrom (.name []) rest
    else readFrom (.arity read (10 * count + (c.toNat - '0'.toNat))) rest

/-- The segments of a flattened name. -/
def readSegments (cs : List Char) : List Segment := readFrom (.name []) cs

/-! ## Names -/

/-- An escaped name is read as it was before. -/
theorem readFrom_name (cs read t : List Char) :
    readFrom (.name read) (cs.flatMap escapeUnderscore ++ t) =
      readFrom (.name (read ++ cs)) t := by
  induction cs generalizing read with
  | nil => simp
  | cons c cs ih =>
    rw [List.flatMap_cons, List.append_assoc]
    by_cases hc : c = '_'
    · subst hc
      have hread : readFrom (.name read)
          (escapeUnderscore '_' ++ (cs.flatMap escapeUnderscore ++ t)) =
            readFrom (.name (read ++ ['_'])) (cs.flatMap escapeUnderscore ++ t) := by
        simp [escapeUnderscore, readFrom]
      rw [hread, ih, List.append_assoc, List.singleton_append]
    · have hread : readFrom (.name read) (escapeUnderscore c ++ (cs.flatMap escapeUnderscore ++ t)) =
          readFrom (.name (read ++ [c])) (cs.flatMap escapeUnderscore ++ t) := by
        simp [escapeUnderscore, readFrom, hc]
      rw [hread, ih, List.append_assoc, List.singleton_append]

/-- Behind an underscore that no digit follows, a segment has ended. -/
theorem readFrom_underscore (read : List Char) {t : List Char}
    (ht : t.head?.any Char.isDigit = false) :
    readFrom (.underscore read) t = ⟨String.ofList read, 0⟩ :: readFrom (.name []) t := by
  cases t with
  | nil => rfl
  | cons c t =>
    have hc : c.isDigit = false := by simpa using ht
    have hzero : c ≠ '0' := by
      rintro rfl
      exact absurd hc (by decide)
    by_cases hu : c = '_' <;> simp [readFrom, hzero, hc, hu]

/-! ## Numbers of type parameters -/

/-- Digits are read as the number that they write. -/
theorem readFrom_arity (read : List Char) {ds : List Char} (hds : '_' ∉ ds) (count : Nat)
    (t : List Char) :
    readFrom (.arity read count) (ds ++ t) =
      readFrom (.arity read (Nat.ofDigitChars 10 ds count)) t := by
  induction ds generalizing count with
  | nil => simp
  | cons d ds ih =>
    rw [List.mem_cons, not_or] at hds
    have hd : d ≠ '_' := fun h => hds.1 h.symm
    rw [List.cons_append, readFrom, if_neg hd, ih hds.2, Nat.ofDigitChars_cons]

/-- A positive number does not begin with a zero. -/
theorem head_toDigits (n : Nat) (hn : n ≠ 0) :
    ∃ d ds, Nat.toDigits 10 n = d :: ds ∧ d ≠ '0' := by
  induction n using Nat.strongRecOn with
  | ind n ih =>
    rw [Nat.toDigits_eq_if (by decide)]
    by_cases hlt : n < 10
    · exact ⟨n.digitChar, [], if_pos hlt, by simp [hn]⟩
    · obtain ⟨d, ds, hd, hne⟩ := ih (n / 10) (by omega) (by omega)
      exact ⟨d, ds ++ [(n % 10).digitChar], by rw [if_neg hlt, hd, List.cons_append], hne⟩

/-- A positive number of type parameters is read as it was written. -/
theorem readFrom_count (read : List Char) {n : Nat} (hn : n ≠ 0) (t : List Char) :
    readFrom (.underscore read) (Nat.toDigits 10 n ++ '_' :: t) =
      ⟨String.ofList read, n⟩ :: readFrom (.name []) t := by
  obtain ⟨d, ds, hds, hzero⟩ := head_toDigits n hn
  have hdigit : d.isDigit := Nat.isDigit_of_mem_toDigits (b := 10) (n := n) (by decide) (by decide)
    (by rw [hds]; exact List.mem_cons_self ..)
  have hu : '_' ∉ ds := by
    intro h
    have hmem : '_' ∈ Nat.toDigits 10 n := by
      rw [hds]
      exact List.mem_cons_of_mem _ h
    exact Nat.underscore_not_in_toDigits hmem
  have hvalue : Nat.ofDigitChars 10 ds (d.toNat - '0'.toNat) = n := by
    have h := Nat.ofDigitChars_toDigits (b := 10) (n := n) (by decide) (by decide)
    rw [hds, Nat.ofDigitChars_cons] at h
    simpa using h
  rw [hds, List.cons_append, readFrom, if_neg hzero, if_pos hdigit, readFrom_arity read hu, hvalue,
    readFrom, if_pos rfl]

/-! ## Segments -/

/-- A segment is read as it was written, unless a digit follows. -/
theorem readFrom_segment (s : Segment) {t : List Char} (ht : t.head?.any Char.isDigit = false) :
    readFrom (.name []) (flattenSegment s ++ t) = s :: readFrom (.name []) t := by
  obtain ⟨name, arity⟩ := s
  rw [flattenSegment, List.append_assoc, List.append_assoc, readFrom_name, List.nil_append]
  by_cases ha : arity = 0
  · subst ha
    have hstep : readFrom (.name name.toList) ('_' :: t) =
        readFrom (.underscore name.toList) t := by
      rw [readFrom, if_pos rfl]
    rw [if_pos rfl, List.nil_append, List.singleton_append, hstep, readFrom_underscore _ ht,
      String.ofList_toList]
  · have hstep : readFrom (.name name.toList) ('_' :: (Nat.toDigits 10 arity ++ '_' :: t)) =
        readFrom (.underscore name.toList) (Nat.toDigits 10 arity ++ '_' :: t) := by
      rw [readFrom, if_pos rfl]
    rw [if_neg ha, List.cons_append, List.singleton_append, hstep, readFrom_count _ ha,
      String.ofList_toList]

/-- A flattened segment begins with a digit only if its name does. -/
theorem head_flattenSegment {s : Segment} (hs : s.startsWithDigit = false) (t : List Char) :
    (flattenSegment s ++ t).head?.any Char.isDigit = false := by
  obtain ⟨name, arity⟩ := s
  rw [Segment.startsWithDigit] at hs
  rw [flattenSegment]
  dsimp only at hs ⊢
  cases hname : name.toList with
  | nil => by_cases ha : arity = 0 <;> simp [ha, Char.isDigit]
  | cons c cs =>
    rw [hname] at hs
    by_cases hc : c = '_'
    · simp [escapeUnderscore, hc, Char.isDigit]
    · simpa [escapeUnderscore, hc] using hs

/-- A flattened name begins with no digit. -/
theorem head_flattenSegments {n : QualifiedName}
    (hn : ∀ s ∈ n.segments, s.startsWithDigit = false) :
    (flattenSegments n).head?.any Char.isDigit = false := by
  rw [flattenSegments]
  cases hsegs : n.segments with
  | nil => rfl
  | cons s segs =>
    rw [List.flatMap_cons]
    exact head_flattenSegment (hn s (by rw [hsegs]; exact List.mem_cons_self ..)) _

/-- **The reader finds the segments that were flattened.** -/
theorem readSegments_flattenSegments (n : QualifiedName)
    (hn : ∀ s ∈ n.segments, s.startsWithDigit = false) :
    readSegments (flattenSegments n) = n.segments := by
  obtain ⟨segs⟩ := n
  rw [readSegments]
  induction segs with
  | nil => rfl
  | cons s segs ih =>
    have hrest : ∀ u ∈ segs, u.startsWithDigit = false := fun u hu =>
      hn u (List.mem_cons_of_mem _ hu)
    have hflat : flattenSegments ⟨s :: segs⟩ = flattenSegment s ++ flattenSegments ⟨segs⟩ :=
      List.flatMap_cons
    rw [hflat, readFrom_segment s (head_flattenSegments (n := ⟨segs⟩) hrest), ih hrest]

/-- A flattened name determines the qualified name. -/
theorem flattenSegments_inj {m n : QualifiedName}
    (hm : ∀ s ∈ m.segments, s.startsWithDigit = false)
    (hn : ∀ s ∈ n.segments, s.startsWithDigit = false)
    (h : flattenSegments m = flattenSegments n) : m = n := by
  have hsegs : m.segments = n.segments := by
    rw [← readSegments_flattenSegments m hm, h, readSegments_flattenSegments n hn]
  obtain ⟨segs⟩ := m
  exact congrArg QualifiedName.mk hsegs

end UnitName

end DataContract
