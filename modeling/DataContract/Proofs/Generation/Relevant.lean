import DataContract.Generation

/-!
# What a unit depends on

Of everything that a candidate carries, a unit for an engine only depends on the uses of that
engine's marker and on the static members.  `Candidate.relevantTo` is the candidate with nothing
else, and `generate_relevantTo` says that the same comes of it, an error included.

Of a configuration only the policy on settings and the layout matter.

A unit that has been generated has gone through all the steps of generation, none of which has failed
(`steps_of_generate`).
-/

namespace DataContract

open Declaration

namespace Declaration.Candidate

/-- The candidate with only those attributes and members that a unit for an engine depends on. -/
def relevantTo (c : Candidate) (e : Engine) : Candidate :=
  { c with attributes := c.usagesOf e.markerPath, members := c.members.filter Member.isStatic }

theorem usagesOf_relevantTo (c : Candidate) (e : Engine) :
    (c.relevantTo e).usagesOf e.markerPath = c.usagesOf e.markerPath := by
  rw [relevantTo, usagesOf, usagesOf, List.filter_filter]
  simp only [Bool.and_self]

end Declaration.Candidate

/-- Only a static member supplies settings. -/
theorem providerShape?_eq_none {name : String} {m : Member} (hm : m.isStatic = false) :
    providerShape? name m = none := by
  rw [providerShape?.eq_def, hm]
  rfl

/-- The provider of settings is found among the static members. -/
theorem settingsProvider?_filter_isStatic (members : List Member) (name : String) :
    settingsProvider? (members.filter Member.isStatic) name = settingsProvider? members name := by
  have hfind : (members.filter Member.isStatic).findSome? (providerShape? name) =
      members.findSome? (providerShape? name) := by
    induction members with
    | nil => rfl
    | cons m members ih =>
      cases hm : m.isStatic with
      | true =>
        rw [List.filter_cons_of_pos hm, List.findSome?_cons, List.findSome?_cons, ih]
      | false =>
        rw [List.filter_cons_of_neg (by simp [hm]), List.findSome?_cons,
          providerShape?_eq_none hm, ih]
  rw [settingsProvider?, hfind, settingsProvider?]

theorem resolve_relevantTo (c : Candidate) (e : Engine) :
    resolve (c.relevantTo e) e = resolve c e := by
  have hbind : bindMarker (c.relevantTo e) e = bindMarker c e := by
    rw [bindMarker, c.usagesOf_relevantTo e, bindMarker]
  have hoptions : ∀ options, Resolution.ofOptions options (c.relevantTo e).members =
      Resolution.ofOptions options c.members := by
    intro options
    have hprovider : settingsProvider? (c.relevantTo e).members = settingsProvider? c.members :=
      funext fun name => settingsProvider?_filter_isStatic c.members name
    rw [Resolution.ofOptions, hprovider, Resolution.ofOptions]
  simp only [resolve, hbind, hoptions]

/-- **A unit depends on nothing but what is relevant.** -/
theorem generate_relevantTo (c : Candidate) (e : Engine) (config : Configuration) :
    generate (c.relevantTo e) e config = generate c e config := by
  rw [generate, resolve_relevantTo, generate]
  rfl

/-- The configuration matters by its policy on settings and its layout. -/
theorem generate_configuration {a b : Configuration} (hpolicy : a.unresolved = b.unresolved)
    (hlayout : a.layout = b.layout) (c : Candidate) (e : Engine) :
    generate c e a = generate c e b := by
  simp only [generate, generateResolved, hpolicy, hlayout]

/-- The same comes of candidates in which the same is relevant. -/
theorem generate_congr {c d : Candidate} {e : Engine} {a b : Configuration}
    (hrelevant : c.relevantTo e = d.relevantTo e) (hpolicy : a.unresolved = b.unresolved)
    (hlayout : a.layout = b.layout) : generate c e a = generate d e b := by
  rw [← generate_relevantTo c, hrelevant, generate_relevantTo d,
    generate_configuration hpolicy hlayout]

/-! ## How a unit comes about -/

/-- The warnings about a unit are all of one kind: that the target names a member which does not supply
settings. -/
theorem eq_warning_of_mem_unresolvedWarnings {policy : UnresolvedPolicy} {target : String}
    {r : Resolution} {ds : Diagnostics} (h : unresolvedWarnings policy target r = .ok ds)
    {x : Diagnostic} (hx : x ∈ ds) : ∃ member, x = ⟨.unresolvedSettingsMember, .warning, target,
      (GenerationError.unresolvedSettings member).message⟩ := by
  rw [unresolvedWarnings] at h
  cases hr : r.unresolved? with
  | none =>
    rw [hr] at h
    rw [← Except.ok.inj h] at hx
    cases hx
  | some member =>
    rw [hr] at h
    cases policy with
    | allow =>
      rw [← Except.ok.inj h] at hx
      cases hx
    | warn =>
      rw [← Except.ok.inj h] at hx
      exact ⟨member, List.mem_singleton.mp hx⟩
    | deny => cases h

/-- **The steps of a unit**: its marker has been resolved, its warnings have been raised and its tree
has been built, and it is that tree under the name of the candidate. -/
theorem steps_of_generate {c : Candidate} {e : Engine} {config : Configuration}
    {generated : Generated} (h : generate c e config = .ok generated) :
    ∃ r tree, resolve c e = .ok r ∧
      unresolvedWarnings config.unresolved c.target r = .ok generated.warnings ∧
      Source.synthesize c e r = .ok tree ∧
      generated.unit = ⟨.ofCandidate c e, tree.render config.layout⟩ := by
  rw [generate] at h
  cases hr : resolve c e with
  | error error =>
    rw [hr] at h
    cases h
  | ok r =>
    rw [hr] at h
    change generateResolved c e config r = .ok generated at h
    rw [generateResolved] at h
    cases hw : unresolvedWarnings config.unresolved c.target r with
    | error error =>
      rw [hw] at h
      cases h
    | ok warnings =>
      rw [hw] at h
      cases ht : Source.synthesize c e r with
      | error error =>
        rw [ht] at h
        cases h
      | ok tree =>
        rw [ht] at h
        rw [← Except.ok.inj h]
        exact ⟨r, tree, rfl, hw, ht, rfl⟩

end DataContract
