import DataContract.Proofs.Declaration.QualifiedName
import DataContract.Proofs.Generation.Relevant
import DataContract.Proofs.Pass.Reference
import DataContract.Proofs.UnitName.Injective

/-!
# What a diagnostic is about

A diagnostic tells which candidate it is about by a target, and this is the displayed qualified name
(`Match.target_of_mem_findings`).  A unit tells the same by its name.  The two are written in different
ways: dots and backquotes set off the parts of a target, and underscores those of a unit name, where
the underscores of the names themselves are escaped.

Nothing is escaped in a target, so its names have to be free of dots and backquotes; and the number of
type parameters in a unit name is told from the next segment by its digits, so no name may begin with
one.  If both holds, either can be read back.  Then targets, qualified names and the unit names for any
one engine are equal for the same candidates (`target_eq_iff`).
-/

namespace DataContract

open Declaration

/-! ## Targets -/

/-- **The target of a diagnostic is the displayed name of the candidate**, whether it warns of the unit
or tells why there is none. -/
theorem Match.target_of_mem_findings {config : Configuration} {m : Match} {x : Diagnostic}
    (hx : x ∈ m.findings config) : x.target = m.candidate.target := by
  rw [findings] at hx
  cases hgenerated : generate m.candidate m.engine config with
  | error error =>
    rw [hgenerated] at hx
    rw [List.mem_singleton.mp hx]
    rfl
  | ok generated =>
    rw [hgenerated] at hx
    obtain ⟨r, tree, -, hwarnings, -⟩ := steps_of_generate hgenerated
    obtain ⟨member, rfl⟩ := eq_warning_of_mem_unresolvedWarnings hwarnings hx
    rfl

/-! ## Two ways to write a name -/

/-- Targets are equal for equal qualified names only. -/
theorem Declaration.Candidate.target_eq_iff_qualifiedName_eq {c d : Candidate}
    (hc : ∀ s ∈ c.qualifiedName.segments, s.isMarked = false)
    (hd : ∀ s ∈ d.qualifiedName.segments, s.isMarked = false) :
    c.target = d.target ↔ c.qualifiedName = d.qualifiedName := by
  constructor
  · exact QualifiedName.text_inj c.segments_qualifiedName_ne_nil d.segments_qualifiedName_ne_nil hc hd
  · intro hname
    rw [Candidate.target, hname, Candidate.target]

/-- The unit names for an engine are equal for equal qualified names only. -/
theorem UnitName.ofCandidate_eq_iff_qualifiedName_eq {c d : Candidate}
    (hc : ∀ s ∈ c.qualifiedName.segments, s.startsWithDigit = false)
    (hd : ∀ s ∈ d.qualifiedName.segments, s.startsWithDigit = false) (e : Engine) :
    ofCandidate c e = ofCandidate d e ↔ c.qualifiedName = d.qualifiedName := by
  constructor
  · exact fun hunit => (flatten_inj hc hd hunit).1
  · intro hname
    rw [ofCandidate, hname, ofCandidate]

/-- **Targets identify the same things as unit names.**  Two candidates are displayed in the same way
exactly if their qualified names are the same segment by segment, and exactly if their units for an
engine have the same name.  So the targets of any two diagnostics about them are the same in these cases
only.  The names may even be empty. -/
theorem target_eq_iff {c d : Candidate}
    (hc : ∀ s ∈ c.qualifiedName.segments, s.isMarked = false ∧ s.startsWithDigit = false)
    (hd : ∀ s ∈ d.qualifiedName.segments, s.isMarked = false ∧ s.startsWithDigit = false) :
    (c.target = d.target ↔ List.Forall₂ (fun s t => s.name = t.name ∧ s.arity = t.arity)
        c.qualifiedName.segments d.qualifiedName.segments) ∧
      (∀ e, c.target = d.target ↔ UnitName.ofCandidate c e = UnitName.ofCandidate d e) ∧
      ∀ e f config config', ∀ x ∈ Match.findings config ⟨c, e⟩, ∀ y ∈ Match.findings config' ⟨d, f⟩,
        (x.target = y.target ↔ c.target = d.target) := by
  have htarget := Candidate.target_eq_iff_qualifiedName_eq (fun s hs => (hc s hs).1)
    (fun s hs => (hd s hs).1)
  have hunit := UnitName.ofCandidate_eq_iff_qualifiedName_eq (fun s hs => (hc s hs).2)
    (fun s hs => (hd s hs).2)
  refine ⟨htarget.trans QualifiedName.eq_iff_forall₂, fun e => htarget.trans (hunit e).symm, ?_⟩
  intro e f config config' x hx y hy
  rw [Match.target_of_mem_findings hx, Match.target_of_mem_findings hy]

/-- The type `Pair` in a box, which is in further types and a namespace. -/
def boxedPair (within : String) (around : List TypeHeader) : Candidate :=
  { Candidate.ofHeader (.ofName .class_ "Pair") with
    enclosing := around ++ [{ TypeHeader.ofName .struct "Box_0" with typeParameters := ["K", "V"] }]
    within := some ⟨within⟩ }

/-- Neither a target nor a unit name tells a type `App` of the namespace `Demo` from the namespace
`Demo.App`, however that is spelled.  So the errors about two such types, which both lack a marker, have
the same target. -/
theorem target_eq_iff_boxedPair :
    (∀ s ∈ (boxedPair " Demo..App " []).qualifiedName.segments,
        s.isMarked = false ∧ s.startsWithDigit = false) ∧
      (∀ s ∈ (boxedPair "Demo" [.ofName .class_ "App"]).qualifiedName.segments,
        s.isMarked = false ∧ s.startsWithDigit = false) ∧
      (∀ e, UnitName.ofCandidate (boxedPair " Demo..App " []) e =
        UnitName.ofCandidate (boxedPair "Demo" [.ofName .class_ "App"]) e) ∧
      ∀ config, ∃ x ∈ Match.findings config ⟨boxedPair " Demo..App " [], .json⟩,
        ∃ y ∈ Match.findings config ⟨boxedPair "Demo" [.ofName .class_ "App"], .xml⟩,
          x.target = y.target := by
  have hc : ∀ s ∈ (boxedPair " Demo..App " []).qualifiedName.segments,
      s.isMarked = false ∧ s.startsWithDigit = false := by decide
  have hd : ∀ s ∈ (boxedPair "Demo" [.ofName .class_ "App"]).qualifiedName.segments,
      s.isMarked = false ∧ s.startsWithDigit = false := by decide
  obtain ⟨hsegments, hunit, htargets⟩ := target_eq_iff hc hd
  have htarget := hsegments.mpr (by decide)
  refine ⟨hc, hd, fun e => (hunit e).mp htarget, fun config => ?_⟩
  have hx := List.mem_singleton_self
    ((GenerationError.missingMarker .json).diagnostic (boxedPair " Demo..App " []).target)
  have hy := List.mem_singleton_self ((GenerationError.missingMarker .xml).diagnostic
    (boxedPair "Demo" [.ofName .class_ "App"]).target)
  exact ⟨_, hx, _, hy, (htargets .json .xml config config _ hx _ hy).mpr htarget⟩

end DataContract
