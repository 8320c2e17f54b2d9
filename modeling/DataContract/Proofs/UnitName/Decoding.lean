import DataContract.Proofs.Text.Ascii
import DataContract.Proofs.UnitName.CaseBits
import DataContract.Proofs.UnitName.Folding

/-!
# Reading a folded unit name back

If a name is in ASCII, folding it loses nothing: the case signature tells the case of every letter,
and no two capitals share a small letter.  `readFolded` reads a folded unit name, from right to left
and then from left to right.

* The case signature is the run of hexadecimal digits at the end (`cutSignature_append`).  It is empty
  if there are no letters, and then the name ends in the `n` of the engine's ending.
* The ending of the engine is cut away (`cutEnding?_append`).  Its letters have no bits.
* What is left is the flattened name in lower case.  Each of its letters takes one bit and gets its
  case back, and the zeros that fill up the last digit are left over (`restoreCase_caseBits`).
* Only now `readSegments` undoes the escaping of underscores and reads the numbers of type parameters.

`readFolded_folded` says that this gives back the qualified name and the engine.
-/

namespace DataContract

open Declaration

/-- Whether the name of a segment is in ASCII. -/
def Declaration.Segment.isAscii (s : Segment) : Bool := s.name.toList.all Text.isAscii

namespace UnitName

/-! ## Letters -/

/-- A text with its letters in the case that the bits tell, one bit for each letter.  Letters for
which there is no bit stay as they are. -/
def restoreCase : List Bool → List Char → List Char
  | _, [] => []
  | bits, c :: rest =>
    if Text.hasCase c then
      (if bits.headD false then c.toUpper else c) :: restoreCase bits.tail rest
    else c :: restoreCase bits rest

/-- In ASCII a letter stays a letter when it is lowered, and a capital can be raised again. -/
theorem toLower_ascii {c : Char} (hc : Text.isAscii c = true) :
    Text.hasCase c.toLower = Text.hasCase c ∧
      (if Text.isUpper c then c.toLower.toUpper else c.toLower) = c := by
  have hlower : Text.isAscii c.toLower = true :=
    Text.forall_isAscii (P := fun c => Text.isAscii c.toLower = true) (by decide) hc
  have hletter : c.toLower.isAlpha = c.isAlpha :=
    Text.forall_isAscii (P := fun c => c.toLower.isAlpha = c.isAlpha) (by decide) hc
  have hraised : (if c.isUpper then c.toLower.toUpper else c.toLower) = c :=
    Text.forall_isAscii (P := fun c => (if c.isUpper then c.toLower.toUpper else c.toLower) = c)
      (by decide) hc
  rw [Text.hasCase_ascii hlower, Text.hasCase_ascii hc, Text.isUpper_ascii hc]
  exact ⟨hletter, hraised⟩

/-- **Lowered letters get their case back**, whatever follows the bits. -/
theorem restoreCase_caseBits {cs : List Char} (hcs : ∀ c ∈ cs, Text.isAscii c = true)
    (more : List Bool) : restoreCase (caseBits cs ++ more) (cs.map Char.toLower) = cs := by
  induction cs with
  | nil => rfl
  | cons c cs ih =>
    obtain ⟨hcase, hraised⟩ := toLower_ascii (hcs c (List.mem_cons_self ..))
    have hrest := ih fun c hc => hcs c (List.mem_cons_of_mem _ hc)
    rw [List.map_cons, restoreCase, hcase]
    cases hletter : Text.hasCase c with
    | true =>
      have hbits : caseBits (c :: cs) = Text.isUpper c :: caseBits cs := by
        rw [caseBits, List.filter_cons_of_pos hletter, List.map_cons, caseBits]
      rw [hbits, List.cons_append, if_pos rfl, List.headD_cons, List.tail_cons, hraised, hrest]
    | false =>
      have hbits : caseBits (c :: cs) = caseBits cs := by
        rw [caseBits, List.filter_cons_of_neg (by simp [hletter]), caseBits]
      have hsmall : c.toLower = c := by
        have hupper : Text.isUpper c = false := (Bool.or_eq_false_iff.mp hletter).1
        rwa [hupper, if_neg Bool.false_ne_true] at hraised
      rw [hbits, if_neg Bool.false_ne_true, hrest, hsmall]

/-! ## A flattened name in ASCII -/

/-- A flattened name is in ASCII if its segments are. -/
theorem isAscii_flattenSegments {n : QualifiedName} (hn : ∀ s ∈ n.segments, s.isAscii = true) :
    ∀ c ∈ flattenSegments n, Text.isAscii c = true := by
  intro c hc
  obtain ⟨s, hs, hc⟩ := List.mem_flatMap.mp hc
  rw [flattenSegment, List.mem_append, List.mem_append, List.mem_singleton] at hc
  rcases hc with (hname | harity) | rfl
  · obtain ⟨d, hd, hc⟩ := List.mem_flatMap.mp hname
    rw [escapeUnderscore] at hc
    split at hc
    · have hescape : ∀ c ∈ ['_', '0'], Text.isAscii c = true := by simp [Text.isAscii]
      exact hescape c hc
    · rw [List.mem_singleton.mp hc]
      exact List.all_eq_true.mp (hn s hs) d hd
  · split at harity
    · cases harity
    · rcases List.mem_cons.mp harity with rfl | hdigit
      · decide
      · have hdigit := Nat.isDigit_of_mem_toDigits (b := 10) (by decide) (by decide) hdigit
        have hhigh := (Char.isDigit_iff_toNat.mp hdigit).2
        have hnine : '9'.toNat = 57 := by decide
        simp only [Text.isAscii, decide_eq_true_eq]
        omega
  · decide

/-- A flattened name in ASCII gets its case back. -/
theorem restoreCase_folded {n : QualifiedName} (hn : ∀ s ∈ n.segments, s.isAscii = true) :
    restoreCase (unpackBits (caseSignature (flattenSegments n))) (flattenSegments n.folded) =
      flattenSegments n := by
  have hascii := isAscii_flattenSegments hn
  have hlower : flattenSegments n.folded = (flattenSegments n).map Char.toLower := by
    have h := lowerFrom_flattenSegments n []
    rw [List.append_nil, Text.lowerFrom_ascii hascii, Text.lowerFrom, List.append_nil] at h
    exact h.symm
  rw [hlower, caseSignature, unpackBits_packBits, restoreCase_caseBits hascii]

/-! ## The ending -/

/-- The case signature at the end of a name, and what stands before it and its underscore. -/
def cutSignature (cs : List Char) : List Char × List Char :=
  let signature := (cs.reverse.takeWhile fun c => signatureDigits.contains c).reverse
  (signature, cs.take (cs.length - (marked signature).length))

/-- The engine whose folded ending stands at the end, and what stands before it. -/
def cutEnding? (cs : List Char) : Option (List Char × Engine) :=
  Engine.all.findSome? fun e =>
    let ending := (foldedSuffix e).toList
    if ending.isSuffixOf cs then some (cs.take (cs.length - ending.length), e) else none

/-- The signature is cut off if there is an `n` before it. -/
theorem cutSignature_append (w : List Char) {signature : List Char}
    (hs : ∀ c ∈ signature, c ∈ signatureDigits) :
    cutSignature (w ++ ['n'] ++ marked signature) = (signature, w ++ ['n']) := by
  have hsignature := takeWhile_reverse_marked w hs
  rw [cutSignature, hsignature, List.reverse_reverse, List.length_append, Nat.add_sub_cancel,
    List.take_left]

/-- An ending is that of one engine only. -/
theorem eq_of_isSuffixOf {flat : List Char} {e f : Engine}
    (h : (foldedSuffix f).toList.isSuffixOf (flat ++ (foldedSuffix e).toList) = true) : f = e := by
  obtain ⟨w, hw⟩ := List.isSuffixOf_iff_suffix.mp h
  have hjson : (foldedSuffix .json).toList = "jso".toList ++ ['n'] ++ "serialization".toList := by
    decide
  have hxml : (foldedSuffix .xml).toList = "xm".toList ++ ['l'] ++ "serialization".toList := by
    decide
  have hne : 'n' ≠ 'l' := by decide
  exact (@endings_split (fun e => (foldedSuffix e).toList) _ _ _ _ _ hne hjson hxml _ _ _ _ hw).2

/-- The ending is cut off. -/
theorem cutEnding?_append (flat : List Char) (e : Engine) :
    cutEnding? (flat ++ (foldedSuffix e).toList) = some (flat, e) := by
  have hown : (foldedSuffix e).toList.isSuffixOf (flat ++ (foldedSuffix e).toList) = true :=
    List.isSuffixOf_iff_suffix.mpr (List.suffix_append _ _)
  have hcut : (flat ++ (foldedSuffix e).toList).take
      ((flat ++ (foldedSuffix e).toList).length - (foldedSuffix e).toList.length) = flat := by
    rw [List.length_append, Nat.add_sub_cancel, List.take_left]
  have hother : ∀ f, f ≠ e →
      (foldedSuffix f).toList.isSuffixOf (flat ++ (foldedSuffix e).toList) = false := by
    intro f hf
    rw [Bool.eq_false_iff]
    exact fun h => hf (eq_of_isSuffixOf h)
  cases e with
  | json =>
    rw [cutEnding?, Engine.all, List.findSome?_cons]
    dsimp only
    rw [if_pos hown, hcut]
  | xml =>
    rw [cutEnding?, Engine.all, List.findSome?_cons, List.findSome?_cons]
    dsimp only
    rw [hother .json (by decide), if_neg Bool.false_ne_true, if_pos hown, hcut]

/-! ## Folded names -/

/-- The qualified name and the engine that a folded unit name stands for. -/
def readFolded (text : String) : Option (QualifiedName × Engine) :=
  let (signature, rest) := cutSignature text.toList
  (cutEnding? rest).map fun (flat, e) =>
    (⟨readSegments (restoreCase (unpackBits signature) flat)⟩, e)

/-- **A folded unit name is read back**, letter case and all, if the segments are in ASCII and none
begins with a digit. -/
theorem readFolded_folded {n : QualifiedName}
    (hn : ∀ s ∈ n.segments, s.isAscii = true ∧ s.startsWithDigit = false) (e : Engine) :
    readFolded (flatten n e).folded = some (n, e) := by
  have hlast : ∃ w, (foldedSuffix e).toList = w ++ ['n'] := by
    cases e
    · exact ⟨"jsonserializatio".toList, by decide⟩
    · exact ⟨"xmlserializatio".toList, by decide⟩
  obtain ⟨w, hw⟩ := hlast
  have hcut : cutSignature (flatten n e).folded.toList =
      (caseSignature (flattenSegments n), flattenSegments n.folded ++ (foldedSuffix e).toList) := by
    rw [folded_eq, hw, ← List.append_assoc]
    exact cutSignature_append _ fun _ hc => mem_signatureDigits_of_mem_caseSignature hc
  rw [readFolded, hcut]
  dsimp only
  rw [cutEnding?_append, Option.map_some, restoreCase_folded fun s hs => (hn s hs).1,
    readSegments_flattenSegments n fun s hs => (hn s hs).2]

/-- Underscores and capitals in every place: `App`, `_x1_` with two type parameters, the empty name,
and `jsonB` with twelve. -/
theorem readFolded_folded_mixed :
    (∀ s ∈ [Segment.mk "App" 0, ⟨"_x1_", 2⟩, ⟨"", 0⟩, ⟨"jsonB", 12⟩],
        s.isAscii = true ∧ s.startsWithDigit = false) ∧
      readFolded (flatten ⟨[⟨"App", 0⟩, ⟨"_x1_", 2⟩, ⟨"", 0⟩, ⟨"jsonB", 12⟩]⟩ .xml).folded =
        some (⟨[⟨"App", 0⟩, ⟨"_x1_", 2⟩, ⟨"", 0⟩, ⟨"jsonB", 12⟩]⟩, .xml) := by
  have hn : ∀ s ∈ [Segment.mk "App" 0, ⟨"_x1_", 2⟩, ⟨"", 0⟩, ⟨"jsonB", 12⟩],
      s.isAscii = true ∧ s.startsWithDigit = false := by
    decide
  exact ⟨hn, readFolded_folded (n := ⟨[⟨"App", 0⟩, ⟨"_x1_", 2⟩, ⟨"", 0⟩, ⟨"jsonB", 12⟩]⟩) hn .xml⟩

end UnitName

end DataContract
