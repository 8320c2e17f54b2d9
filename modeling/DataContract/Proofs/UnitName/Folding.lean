import DataContract.Proofs.Text.Lowercase
import DataContract.Proofs.UnitName.Injective

/-!
# Unit names that fold together

Where a file system does not tell upper from lower case, it is the folded names of units that have
to differ.  A folded name is taken apart in the same way as a name (`folded_eq`): the segments have
been lowered one by one, the ending of the engine has become another one, and the case signature,
which has no upper-case letters, is what it was.

So two names fold together exactly if the engines are the same and the qualified names are *case
twins*: names with the same lower-case segments for which the signature is the same too
(`folded_eq_iff`).

The signature is there to prevent this, but it only records which of the cased characters are upper
case.  Two different capitals may have the same lower-case form, as the two thetas U+0398 and U+03F4
have, and a title-case letter is lowered without being recorded at all.
-/

namespace DataContract

open Declaration

/-- The qualified name with lower-case segments. -/
def Declaration.QualifiedName.folded (n : QualifiedName) : QualifiedName :=
  ⟨n.segments.map fun s => ⟨Text.lowercase s.name, s.arity⟩⟩

namespace UnitName

/-- Qualified names that differ in case, in a way that the case signature does not record. -/
def CaseTwins (m n : QualifiedName) : Prop :=
  m.folded = n.folded ∧ caseSignature (flattenSegments m) = caseSignature (flattenSegments n)

instance (m n : QualifiedName) : Decidable (CaseTwins m n) :=
  inferInstanceAs (Decidable (_ ∧ _))

/-! ## Lowering a flattened name -/

theorem flatMap_escapeUnderscore_eq_self {cs : List Char} (h : '_' ∉ cs) :
    cs.flatMap escapeUnderscore = cs := by
  induction cs with
  | nil => rfl
  | cons c cs ih =>
    rw [List.mem_cons, not_or] at h
    rw [List.flatMap_cons, ih h.2, escapeUnderscore, if_neg (Ne.symm h.1)]
    rfl

/-- Escaping underscores does not change what a sigma sees. -/
theorem casedAhead_escaped (cs t : List Char) :
    Text.casedAhead (cs.flatMap escapeUnderscore ++ '_' :: t) = Text.casedAhead cs := by
  induction cs with
  | nil => exact Text.casedAhead_inert Text.isInert_underscore [] t
  | cons c cs ih =>
    rw [List.flatMap_cons, List.append_assoc]
    by_cases hc : c = '_'
    · subst hc
      exact (Text.casedAhead_inert Text.isInert_underscore [] _).trans
        (Text.casedAhead_inert Text.isInert_underscore [] cs).symm
    · rw [escapeUnderscore, if_neg hc, List.singleton_append, Text.casedAhead_cons,
        Text.casedAhead_cons, ih]

/-- **Lowering and escaping commute**, as long as an underscore follows. -/
theorem lowerFrom_escaped (before cs t : List Char) :
    Text.lowerFrom before (cs.flatMap escapeUnderscore ++ '_' :: t) =
      (Text.lowerFrom before cs).flatMap escapeUnderscore ++ '_' :: Text.lowerFrom [] t := by
  induction cs generalizing before with
  | nil => exact Text.lowerFrom_cons_of_isInert Text.isInert_underscore before t
  | cons c cs ih =>
    rw [List.flatMap_cons, List.append_assoc]
    by_cases hc : c = '_'
    · subst hc
      have hzero : Text.isInert '0' = true := Text.isInert_of_isDigit (by decide)
      show Text.lowerFrom before ('_' :: '0' :: (cs.flatMap escapeUnderscore ++ '_' :: t)) = _
      rw [Text.lowerFrom_cons_of_isInert Text.isInert_underscore,
        Text.lowerFrom_cons_of_isInert hzero, ih,
        Text.lowerFrom_cons_of_isInert Text.isInert_underscore]
      rfl
    · have hpiece := flatMap_escapeUnderscore_eq_self
        (Text.underscore_notMem_lowerPiece hc before cs)
      rw [escapeUnderscore, if_neg hc, List.singleton_append, Text.lowerFrom_cons, ih,
        Text.lowerPiece_congr rfl (casedAhead_escaped cs t) c, Text.lowerFrom_cons,
        List.flatMap_append, hpiece, List.append_assoc]

/-- A flattened segment is lowered by lowering its name. -/
theorem lowerFrom_flattenSegment (s : Segment) (t : List Char) :
    Text.lowerFrom [] (flattenSegment s ++ t) =
      flattenSegment ⟨Text.lowercase s.name, s.arity⟩ ++ Text.lowerFrom [] t := by
  obtain ⟨name, arity⟩ := s
  rw [flattenSegment, flattenSegment, Text.lowercase, String.toList_ofList]
  by_cases ha : arity = 0
  · simp only [ha, if_true, List.append_nil, List.append_assoc, List.singleton_append]
    exact lowerFrom_escaped [] name.toList t
  · have hdigits : ∀ c ∈ Nat.toDigits 10 arity, Text.isInert c = true := fun c hc =>
      Text.isInert_of_isDigit (Nat.isDigit_of_mem_toDigits (by decide) (by decide) hc)
    simp only [if_neg ha, List.append_assoc, List.cons_append, List.nil_append]
    rw [lowerFrom_escaped, Text.lowerFrom_append_of_isInert hdigits,
      Text.lowerFrom_cons_of_isInert Text.isInert_underscore]

/-- A flattened name is lowered by lowering its segments. -/
theorem lowerFrom_flattenSegments (n : QualifiedName) (t : List Char) :
    Text.lowerFrom [] (flattenSegments n ++ t) =
      flattenSegments n.folded ++ Text.lowerFrom [] t := by
  obtain ⟨segments⟩ := n
  simp only [flattenSegments, QualifiedName.folded]
  induction segments with
  | nil => rfl
  | cons s segments ih =>
    rw [List.flatMap_cons, List.append_assoc, lowerFrom_flattenSegment, ih, List.map_cons,
      List.flatMap_cons, List.append_assoc]

/-! ## Lowering the ending -/

/-- The ending of an engine in lower case. -/
def foldedSuffix : Engine → String
  | .json => "jsonserialization"
  | .xml => "xmlserialization"

/-- A case signature is in lower case. -/
theorem fixed_of_mem_marked {signature : List Char} (hs : ∀ c ∈ signature, c ∈ signatureDigits) :
    ∀ c ∈ marked signature, Text.IsFixed c := by
  have hfixed : ∀ c ∈ '_' :: signatureDigits, Text.IsFixed c := Text.isFixed_of_all (by decide)
  intro c hc
  rw [marked] at hc
  split at hc
  · cases hc
  · rcases List.mem_cons.mp hc with rfl | hc
    · exact hfixed _ (List.mem_cons_self ..)
    · exact hfixed c (List.mem_cons_of_mem _ (hs c hc))

/-- Lowering an ending changes nothing but the part that stands for the engine. -/
theorem lowerFrom_unitSuffix (e : Engine) {rest : List Char}
    (hrest : ∀ c ∈ rest, Text.IsFixed c) :
    Text.lowerFrom [] (e.unitSuffix.toList ++ rest) = (foldedSuffix e).toList ++ rest := by
  have hsigma : 'Σ' ∉ e.unitSuffix.toList := by
    cases e <;> decide
  have hsuffix : Text.lowerFrom [] e.unitSuffix.toList = (foldedSuffix e).toList := by
    cases e <;> decide +kernel
  rw [Text.lowerFrom_append_of_notMem hsigma, Text.lowerFrom_of_fixed hrest, hsuffix]

/-! ## Folded names -/

/-- **What a unit name is lowered to**: the lower-case segments, the lower-case ending of the engine,
the case signature of the name as it was, and whatever follows in lower case. -/
theorem lowerFrom_flatten (n : QualifiedName) (e : Engine) {rest : List Char}
    (hrest : ∀ c ∈ rest, Text.IsFixed c) :
    Text.lowerFrom [] ((flatten n e).text.toList ++ rest) =
      flattenSegments n.folded ++ (foldedSuffix e).toList ++
        marked (caseSignature (flattenSegments n)) ++ rest := by
  have hchars : (flatten n e).text.toList ++ rest = flattenSegments n ++
      (e.unitSuffix.toList ++ (marked (caseSignature (flattenSegments n)) ++ rest)) := by
    rw [flatten, String.toList_ofList, ← List.append_assoc, ← List.append_assoc]
    rfl
  have hfixed : ∀ c ∈ marked (caseSignature (flattenSegments n)) ++ rest,
      Text.IsFixed c := by
    intro c hc
    rcases List.mem_append.mp hc with hc | hc
    · exact fixed_of_mem_marked (fun _ h => mem_signatureDigits_of_mem_caseSignature h) c hc
    · exact hrest c hc
  rw [hchars, lowerFrom_flattenSegments, lowerFrom_unitSuffix e hfixed, List.append_assoc,
    List.append_assoc]

/-- A folded unit name. -/
theorem folded_eq (n : QualifiedName) (e : Engine) :
    (flatten n e).folded.toList =
      flattenSegments n.folded ++ (foldedSuffix e).toList ++
        marked (caseSignature (flattenSegments n)) := by
  have hnil : ∀ c ∈ ([] : List Char), Text.IsFixed c :=
    fun _ hc => nomatch hc
  have h := lowerFrom_flatten n e hnil
  rw [List.append_nil, List.append_nil] at h
  rw [folded, Text.lowercase, String.toList_ofList, h]

/-- The file of a unit folds to the file of the folded name. -/
theorem lowercase_fileName (n : QualifiedName) (e : Engine) :
    Text.lowercase (flatten n e).fileName = sourceFile (flatten n e).folded := by
  have hfixed : ∀ c ∈ ".g.cs".toList, Text.IsFixed c := Text.isFixed_of_all (by decide)
  have hchars : (Text.lowercase (flatten n e).fileName).toList =
      (sourceFile (flatten n e).folded).toList := by
    rw [Text.lowercase, String.toList_ofList, fileName, sourceFile, String.toList_append,
      lowerFrom_flatten n e hfixed, ← folded_eq, sourceFile, String.toList_append]
  exact String.toList_inj.mp hchars

/-- Lowering a segment does not make it begin with a digit. -/
theorem startsWithDigit_folded {n : QualifiedName}
    (hn : ∀ s ∈ n.segments, s.startsWithDigit = false) :
    ∀ s ∈ n.folded.segments, s.startsWithDigit = false := by
  intro s hs
  obtain ⟨t, ht, rfl⟩ := List.mem_map.mp hs
  have htext : (Text.lowercase t.name).toList = Text.lowerFrom [] t.name.toList :=
    String.toList_ofList
  rw [Segment.startsWithDigit, htext, Text.head_lowerFrom]
  exact hn t ht

/-- **Unit names fold together exactly if the engines are the same and the qualified names are case
twins**, as long as no segment begins with a digit. -/
theorem folded_eq_iff {m n : QualifiedName} {e f : Engine}
    (hm : ∀ s ∈ m.segments, s.startsWithDigit = false)
    (hn : ∀ s ∈ n.segments, s.startsWithDigit = false) :
    (flatten m e).folded = (flatten n f).folded ↔ e = f ∧ CaseTwins m n := by
  constructor
  · intro h
    have hchars := congrArg String.toList h
    rw [folded_eq, folded_eq] at hchars
    have hjson : (foldedSuffix .json).toList =
        "jso".toList ++ ['n'] ++ ("serializatio".toList ++ ['n']) := by decide
    have hxml : (foldedSuffix .xml).toList =
        "xm".toList ++ ['l'] ++ ("serializatio".toList ++ ['n']) := by decide
    have hne : 'n' ≠ 'l' := by decide
    obtain ⟨hflat, hengine, hsignature⟩ :=
      ending_inj (fun e => (foldedSuffix e).toList) hne hjson hxml
        (fun _ hc => mem_signatureDigits_of_mem_caseSignature hc)
        (fun _ hc => mem_signatureDigits_of_mem_caseSignature hc) hchars
    exact ⟨hengine, flattenSegments_inj (startsWithDigit_folded hm) (startsWithDigit_folded hn) hflat,
      hsignature⟩
  · rintro ⟨rfl, hfolded, hsignature⟩
    have hchars : (flatten m e).folded.toList = (flatten n e).folded.toList := by
      rw [folded_eq, folded_eq, hfolded, hsignature]
    exact String.toList_inj.mp hchars

/-- The two thetas. -/
theorem caseTwins_theta : CaseTwins ⟨[⟨"Θ", 0⟩]⟩ ⟨[⟨"ϴ", 0⟩]⟩ := by
  decide +kernel

end UnitName

end DataContract
