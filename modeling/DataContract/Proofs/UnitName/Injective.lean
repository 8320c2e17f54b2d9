import DataContract.Proofs.UnitName.Groups
import DataContract.Proofs.UnitName.Reading

/-!
# A unit name determines what it names

A unit name consists of a flattened name, the ending of an engine and possibly a case signature.
It is taken apart from the right.  The signature is the longest run of hexadecimal digits at the
end: it is preceded by an underscore if there is one, and by the letter `n` if there is none.
Then the two endings differ in the letter before their common part.

What remains is the flattened name, from which `readSegments` recovers the segments.
-/

namespace DataContract

open Declaration

namespace UnitName

/-! ## The digits of a signature -/

/-- The digits that a case signature is made of. -/
def signatureDigits : List Char :=
  ['0', '1', '2', '3', '4', '5', '6', '7', '8', '9', 'a', 'b', 'c', 'd', 'e', 'f']

theorem hexOfBits_mem {bits : List Bool} (h : bits.length ≤ 4) :
    hexOfBits bits ∈ signatureDigits :=
  forall_length_le_four (P := fun bits => hexOfBits bits ∈ signatureDigits)
    (by decide) (by decide) (by decide) (by decide) (by decide) h

theorem mem_signatureDigits_of_mem_packBits {c : Char} (bits : List Bool) :
    c ∈ packBits bits → c ∈ signatureDigits := by
  rw [packBits_eq_map, List.mem_map]
  rintro ⟨group, hgroup, rfl⟩
  exact hexOfBits_mem (length_le_of_mem_groups hgroup)

theorem mem_signatureDigits_of_mem_caseSignature {c : Char} {cs : List Char}
    (h : c ∈ caseSignature cs) : c ∈ signatureDigits :=
  mem_signatureDigits_of_mem_packBits _ h

/-! ## The ending -/

/-- A case signature as it stands in a unit name, with the underscore before it. -/
def marked (signature : List Char) : List Char :=
  if signature.isEmpty then [] else '_' :: signature

/-- The signature is the run of digits at the end, as long as an `n` stands before it. -/
theorem takeWhile_reverse_marked (w : List Char) {signature : List Char}
    (hs : ∀ c ∈ signature, c ∈ signatureDigits) :
    ((w ++ ['n'] ++ marked signature).reverse.takeWhile fun c => signatureDigits.contains c) =
      signature.reverse := by
  have hdigits : ∀ c ∈ signature.reverse, signatureDigits.contains c = true := fun c hc =>
    List.contains_iff_mem.mpr (hs c (List.mem_reverse.mp hc))
  cases signature with
  | nil =>
    simp only [marked, List.isEmpty_nil, if_true, List.append_nil, List.reverse_append,
      List.reverse_cons, List.reverse_nil, List.nil_append, List.singleton_append]
    rfl
  | cons d ds =>
    have hsplit : (w ++ ['n'] ++ marked (d :: ds)).reverse =
        (d :: ds).reverse ++ '_' :: (w ++ ['n']).reverse := by
      rw [marked, List.isEmpty_cons, if_neg Bool.false_ne_true, List.reverse_append,
        List.reverse_cons (a := '_'), List.append_assoc, List.singleton_append]
    rw [hsplit, List.takeWhile_append_of_pos hdigits,
      List.takeWhile_cons_of_neg (by decide), List.append_nil]

/-- **The signature splits off**, as long as an `n` stands before it on either side. -/
theorem signature_split {w w' signature signature' : List Char}
    (hs : ∀ c ∈ signature, c ∈ signatureDigits) (hs' : ∀ c ∈ signature', c ∈ signatureDigits)
    (h : w ++ ['n'] ++ marked signature = w' ++ ['n'] ++ marked signature') :
    w = w' ∧ signature = signature' := by
  have hsig : signature = signature' := by
    have hrev : signature.reverse = signature'.reverse := by
      rw [← takeWhile_reverse_marked w hs, h, takeWhile_reverse_marked w' hs']
    exact List.reverse_inj.mp hrev
  rw [hsig] at h
  exact ⟨List.append_cancel_right (List.append_cancel_right h), hsig⟩

/-- Two lists that end in different characters are different. -/
theorem append_singleton_ne {w w' : List Char} {c d : Char} (hne : c ≠ d) :
    w ++ [c] ≠ w' ++ [d] := fun h =>
  hne (by simpa using congrArg List.getLast? h)

/-- **The endings of the engines split off**, if they differ in the letter before a common part.
That part is cut away first. -/
theorem endings_split {ending : Engine → List Char} {u v common : List Char} {c d : Char}
    (hne : c ≠ d) (hjson : ending .json = u ++ [c] ++ common)
    (hxml : ending .xml = v ++ [d] ++ common) {flat flat' : List Char} {e f : Engine}
    (h : flat ++ ending e = flat' ++ ending f) : flat = flat' ∧ e = f := by
  have hcut : ∀ w : List Char, w ++ ending .json = (w ++ u ++ [c]) ++ common := by
    intro w
    rw [hjson, ← List.append_assoc, ← List.append_assoc]
  have hcut' : ∀ w : List Char, w ++ ending .xml = (w ++ v ++ [d]) ++ common := by
    intro w
    rw [hxml, ← List.append_assoc, ← List.append_assoc]
  cases e <;> cases f
  · exact ⟨List.append_cancel_right h, rfl⟩
  · rw [hcut, hcut'] at h
    exact absurd (List.append_cancel_right h) (append_singleton_ne hne)
  · rw [hcut, hcut'] at h
    exact absurd (List.append_cancel_right h) (append_singleton_ne hne.symm)
  · exact ⟨List.append_cancel_right h, rfl⟩

/-- A name with such an ending, which also ends in an `n`, determines all that it was made from. -/
theorem ending_inj (ending : Engine → List Char) {u v common : List Char} {c d : Char}
    (hne : c ≠ d) (hjson : ending .json = u ++ [c] ++ (common ++ ['n']))
    (hxml : ending .xml = v ++ [d] ++ (common ++ ['n'])) {flat flat' : List Char} {e f : Engine}
    {signature signature' : List Char} (hs : ∀ c ∈ signature, c ∈ signatureDigits)
    (hs' : ∀ c ∈ signature', c ∈ signatureDigits)
    (h : flat ++ ending e ++ marked signature = flat' ++ ending f ++ marked signature') :
    flat = flat' ∧ e = f ∧ signature = signature' := by
  have hlast : ∀ e, ∃ w, ending e = w ++ ['n'] := by
    intro e
    cases e
    · exact ⟨u ++ [c] ++ common, by rw [hjson, ← List.append_assoc]⟩
    · exact ⟨v ++ [d] ++ common, by rw [hxml, ← List.append_assoc]⟩
  obtain ⟨x, hx⟩ := hlast e
  obtain ⟨y, hy⟩ := hlast f
  rw [hx, hy, ← List.append_assoc flat, ← List.append_assoc flat'] at h
  obtain ⟨hw, hsig⟩ := signature_split hs hs' h
  have hends : flat ++ ending e = flat' ++ ending f := by
    rw [hx, hy, ← List.append_assoc, ← List.append_assoc, hw]
  obtain ⟨hflat, hengine⟩ := endings_split hne hjson hxml hends
  exact ⟨hflat, hengine, hsig⟩

/-- The endings of unit names. -/
theorem addEnding_inj {flat flat' signature signature' : List Char} {e f : Engine}
    (hs : ∀ c ∈ signature, c ∈ signatureDigits) (hs' : ∀ c ∈ signature', c ∈ signatureDigits)
    (h : addEnding flat e signature = addEnding flat' f signature') :
    flat = flat' ∧ e = f ∧ signature = signature' := by
  have hjson : Engine.json.unitSuffix.toList =
      "Jso".toList ++ ['n'] ++ ("Serializatio".toList ++ ['n']) := by decide
  have hxml : Engine.xml.unitSuffix.toList =
      "Xm".toList ++ ['l'] ++ ("Serializatio".toList ++ ['n']) := by decide
  have hne : 'n' ≠ 'l' := by decide
  exact ending_inj (·.unitSuffix.toList) hne hjson hxml hs hs' h

/-! ## Unit names -/

/-- A unit name has been made from one qualified name and one engine. -/
theorem flatten_inj {m n : QualifiedName} {e f : Engine}
    (hm : ∀ s ∈ m.segments, s.startsWithDigit = false)
    (hn : ∀ s ∈ n.segments, s.startsWithDigit = false) (h : flatten m e = flatten n f) :
    m = n ∧ e = f := by
  have hchars : addEnding (flattenSegments m) e (caseSignature (flattenSegments m)) =
      addEnding (flattenSegments n) f (caseSignature (flattenSegments n)) := by
    have htext := congrArg (fun u => u.text.toList) h
    simpa [flatten] using htext
  obtain ⟨hflat, hengine, -⟩ := addEnding_inj
    (fun _ hc => mem_signatureDigits_of_mem_caseSignature hc)
    (fun _ hc => mem_signatureDigits_of_mem_caseSignature hc) hchars
  exact ⟨flattenSegments_inj hm hn hflat, hengine⟩

/-- **A unit name determines the qualified name and the engine**, as long as no segment begins with
a digit. -/
theorem flatten_eq_iff {m n : QualifiedName} {e f : Engine}
    (hm : ∀ s ∈ m.segments, s.startsWithDigit = false)
    (hn : ∀ s ∈ n.segments, s.startsWithDigit = false) :
    flatten m e = flatten n f ↔ m = n ∧ e = f := by
  constructor
  · exact flatten_inj hm hn
  · rintro ⟨rfl, rfl⟩
    rfl

/-- Names in which the underscore comes in every meaning: `_A_`, the empty name, `B` with twelve
type parameters, against `_A` and `_`, and the empty name with one. -/
theorem flatten_ne_of_underscores :
    (∀ s ∈ [Segment.mk "_A_" 0, ⟨"", 0⟩, ⟨"B", 12⟩], s.startsWithDigit = false) ∧
      (∀ s ∈ [Segment.mk "_A" 0, ⟨"_", 0⟩, ⟨"", 1⟩], s.startsWithDigit = false) ∧
      flatten ⟨[⟨"_A_", 0⟩, ⟨"", 0⟩, ⟨"B", 12⟩]⟩ .json ≠
        flatten ⟨[⟨"_A", 0⟩, ⟨"_", 0⟩, ⟨"", 1⟩]⟩ .json := by
  have hleft : ∀ s ∈ [Segment.mk "_A_" 0, ⟨"", 0⟩, ⟨"B", 12⟩], s.startsWithDigit = false := by
    decide
  have hright : ∀ s ∈ [Segment.mk "_A" 0, ⟨"_", 0⟩, ⟨"", 1⟩], s.startsWithDigit = false := by
    decide
  refine ⟨hleft, hright, fun h => ?_⟩
  have hboth := (flatten_eq_iff (m := ⟨[⟨"_A_", 0⟩, ⟨"", 0⟩, ⟨"B", 12⟩]⟩)
    (n := ⟨[⟨"_A", 0⟩, ⟨"_", 0⟩, ⟨"", 1⟩]⟩) hleft hright).mp h
  exact absurd hboth.1 (by decide)

end UnitName

end DataContract
