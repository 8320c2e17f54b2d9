import DataContract.Eligibility
import DataContract.Generation
import DataContract.Proofs.Text.Split
import DataContract.Proofs.Text.Trim

/-!
# Namespaces that are spelled differently

The name of a namespace may be written with white space around its segments and with dots too many.
None of that matters: of the text only the segments count, and the canonical form of a namespace is
what they make when they are joined by single dots.

* `segmentChars_intercalate` --- segments that are joined are found again.  They are not empty, they
  are trimmed, and there are no dots in them (`IsSegment`), so neither cutting nor trimming does
  anything else to them than to undo the joining.
* `segments_canonical`, `canonical_canonical` --- so the canonical form has the same segments, and is
  its own canonical form.
* `Source.wrapInNamespace_eq` --- the namespace of a unit is written from the segments, and if there
  are none it is left out.
* `alike_of_segments` --- whatever is decided, named and generated for a candidate depends on its
  namespace by the segments alone.

`canonical_alike` puts this together.
-/

namespace DataContract

open Declaration

/-! ## Segments -/

namespace Declaration.Namespace

/-- The characters of a segment: some, trimmed and without a dot. -/
structure IsSegment (cs : List Char) : Prop where
  ne_nil : cs ≠ []
  noDot : '.' ∉ cs
  trimmed : Text.Trimmed cs

theorem isSegment_of_mem {cs segment : List Char} (h : segment ∈ segmentChars cs) :
    IsSegment segment := by
  rw [segmentChars, List.mem_filter, List.mem_map] at h
  obtain ⟨⟨piece, hpiece, rfl⟩, hempty⟩ := h
  refine ⟨by simpa using hempty, fun hdot => ?_, Text.trimmed_trimChars piece⟩
  have hpart := Text.not_of_mem_splitWhere hpiece '.' (Text.mem_of_mem_trimChars hdot)
  exact absurd hpart (by decide)

/-- **Segments that are joined by dots are found again.** -/
theorem segmentChars_intercalate {segments : List (List Char)}
    (h : ∀ segment ∈ segments, IsSegment segment) :
    segmentChars (['.'].intercalate segments) = segments := by
  by_cases hne : segments = []
  · rw [hne]
    rfl
  · have htrim : segments.map Text.trimChars = segments :=
      (List.map_congr_left fun segment hsegment => (h segment hsegment).trimmed.trimChars_eq).trans
        (List.map_id' segments)
    rw [segmentChars,
      Text.splitWhere_intercalate hne fun segment hsegment => (h segment hsegment).noDot, htrim,
      List.filter_eq_self]
    exact fun segment hsegment => by simpa using (h segment hsegment).ne_nil

theorem toList_canonical (n : Namespace) :
    n.canonical.toList = ['.'].intercalate (segmentChars n.text.toList) := by
  have hchars : (segmentChars n.text.toList).map (String.toList ∘ String.ofList) =
      segmentChars n.text.toList :=
    List.map_id'' (fun _ => String.toList_ofList) _
  rw [canonical, segments, String.toList_intercalate, List.map_map, hchars]
  rfl

/-- **The canonical form has the same segments.** -/
theorem segments_canonical (n : Namespace) : (mk n.canonical).segments = n.segments := by
  rw [segments, toList_canonical, segmentChars_intercalate fun _ => isSegment_of_mem, segments]

/-- The canonical form of a canonical form is that form. -/
theorem canonical_canonical (n : Namespace) : (mk n.canonical).canonical = n.canonical := by
  rw [canonical, segments_canonical, canonical]

/-- The canonical form is empty exactly if there are no segments. -/
theorem canonical_eq_empty_iff (n : Namespace) : n.canonical = "" ↔ n.segments = [] := by
  constructor
  · intro h
    rw [← segments_canonical, h]
    rfl
  · intro h
    rw [canonical, h, String.intercalate_nil]

/-- The namespace in its canonical form, or none if there are no segments. -/
def canonical? (n : Namespace) : Option Namespace :=
  if n.canonical = "" then none else some ⟨n.canonical⟩

end Declaration.Namespace

/-! ## What depends on a namespace -/

/-- A part wrapped in the namespace of some segments, if there are any. -/
def Source.wrapInSegments (segments : List String) (inner : Node) : Node :=
  if segments = [] then inner else .space (String.intercalate "." segments) [inner]

/-- The namespace of a unit is written from the segments. -/
theorem Source.wrapInNamespace_eq (c : Candidate) (inner : Node) :
    wrapInNamespace c.within inner = wrapInSegments c.namespaceSegments inner := by
  rw [Candidate.namespaceSegments]
  cases c.within with
  | none => rfl
  | some n =>
    have hempty : n.canonical.isEmpty = true ↔ n.segments = [] :=
      String.isEmpty_iff.trans n.canonical_eq_empty_iff
    simp only [wrapInNamespace, wrapInSegments, hempty]
    rfl

/-- Nothing tells one candidate from another: the same engines take them, or reject them for the same
reason, their units are called the same, they are called the same in diagnostics, and the same comes
of generating their units, which is a name, a source and warnings, or an error. -/
structure Declaration.Candidate.Alike (c d : Candidate) : Prop where
  rejection (e : Engine) : rejection? d e = rejection? c e
  unitName (e : Engine) : UnitName.ofCandidate d e = UnitName.ofCandidate c e
  target : d.target = c.target
  generated (e : Engine) (config : Configuration) : generate d e config = generate c e config

/-- **Of the namespace nothing but the segments counts.** -/
theorem alike_of_segments {c : Candidate} {within : Option Namespace}
    (h : { c with within := within }.namespaceSegments = c.namespaceSegments) :
    c.Alike { c with within := within } := by
  have hname : { c with within := within }.qualifiedName = c.qualifiedName := by
    rw [Candidate.qualifiedName, h, Candidate.qualifiedName]
    rfl
  have htarget : { c with within := within }.target = c.target := by
    rw [Candidate.target, hname, Candidate.target]
  have hunit : ∀ e, UnitName.ofCandidate { c with within := within } e = .ofCandidate c e := by
    intro e
    rw [UnitName.ofCandidate, hname, UnitName.ofCandidate]
  have htree : ∀ e r, Source.synthesize { c with within := within } e r = Source.synthesize c e r := by
    intro e r
    simp only [Source.synthesize, Source.wrapInNamespace_eq c, ← h,
      ← Source.wrapInNamespace_eq { c with within := within }]
    rfl
  refine ⟨fun _ => rfl, hunit, htarget, fun e config => ?_⟩
  have hresolve : resolve { c with within := within } e = resolve c e := rfl
  simp only [generate, generateResolved, hresolve, htarget, htree, hunit]

/-- **Generation sees only the canonical namespace.**  A candidate in a namespace, however that is
spelled, is like the candidate in the canonical form of the namespace, and like the one in no namespace
if that form is empty.  The form is its own canonical form and has the segments of the original text;
they are what the qualified name begins with, and what the namespace of the unit is written from. -/
theorem canonical_alike (c : Candidate) (text : String) :
    let n : Namespace := ⟨text⟩
    (c.inNamespace text).Alike (c.inNamespace n.canonical) ∧
      (c.inNamespace text).Alike { c with within := n.canonical? } ∧
      (⟨n.canonical⟩ : Namespace).canonical = n.canonical ∧
      (⟨n.canonical⟩ : Namespace).segments = n.segments ∧
      (c.inNamespace text).qualifiedName.segments =
        n.segments.map (⟨·, 0⟩) ++ c.chain.map TypeHeader.segment ∧
      ∀ inner, Source.wrapInNamespace (some n) inner = Source.wrapInSegments n.segments inner := by
  intro n
  have hcanonical : (c.inNamespace text).Alike (c.inNamespace n.canonical) :=
    alike_of_segments n.segments_canonical
  refine ⟨hcanonical, ?_, n.canonical_canonical, n.segments_canonical, rfl, fun inner =>
    Source.wrapInNamespace_eq (c.inNamespace text) inner⟩
  by_cases hempty : n.canonical = ""
  · rw [Namespace.canonical?, if_pos hempty]
    exact alike_of_segments (c := c.inNamespace text) (n.canonical_eq_empty_iff.mp hempty).symm
  · rw [Namespace.canonical?, if_neg hempty]
    exact hcanonical

end DataContract
