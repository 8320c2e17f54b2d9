import DataContract.Eligibility
import DataContract.Generation
import Mathlib.Data.List.Basic

/-!
# Which candidates get a unit, and why others do not

Generation has three stages that can fail: the marker has to be bound, the member that it names has to
supply settings, and the types around the candidate have to be open.  Each of them walks over a list,
and the first stage that fails decides.

Every stage is described by a predicate of its own, which does not walk:

* `SoleBinding` --- one use of the marker binds, and no other does (`bindMarker_eq_ok_iff`,
  `bindMarker_eq_error_iff`);
* `Unresolved` --- a member is requested and none supplies settings under that name
  (`unresolvedWarnings_eq_ok`, `unresolvedWarnings_eq_error_iff`);
* `OutermostClosed` --- a type around the candidate is closed, and all those around it are open
  (`synthesize_eq_error_iff`).

`generate_eq_ok_iff` and `generate_eq_error_iff` say in what order they are asked.  `Verdict` lists
what follows for each outcome, and `generate_verdict` is that it holds of all candidates.
-/

namespace DataContract

open Declaration Marker

variable {c : Candidate} {e : Engine} {config : Configuration}

/-! ## Binding the marker -/

/-- These are the options of the only use of an engine's marker that binds. -/
def SoleBinding (c : Candidate) (e : Engine) (o : MarkerOptions) : Prop :=
  ∃ before usage after, c.usagesOf e.markerPath = before ++ usage :: after ∧
    bindUsage usage = .ok o ∧ ∀ other ∈ before ++ after, ∀ o', bindUsage other ≠ .ok o'

/-- How many uses of an engine's marker bind. -/
def bindingCount (c : Candidate) (e : Engine) : Nat :=
  (c.usagesOf e.markerPath).countP fun usage => (bindUsage usage).isOk

/-- This is the error of the first use of an engine's marker, and none binds. -/
def FirstFailure (c : Candidate) (e : Engine) (error : BindingError) : Prop :=
  bindingCount c e = 0 ∧
    ∃ usage, (c.usagesOf e.markerPath).head? = some usage ∧ bindUsage usage = .error error

theorem boundOptions?_eq_some_iff {usage : AttributeUsage} {o : MarkerOptions} :
    boundOptions? usage = some o ↔ bindUsage usage = .ok o := by
  rw [boundOptions?]
  cases bindUsage usage <;> simp

theorem boundOptions?_eq_none_iff {usage : AttributeUsage} :
    boundOptions? usage = none ↔ ∀ o, bindUsage usage ≠ .ok o := by
  rw [boundOptions?]
  cases bindUsage usage <;> simp

theorem length_filterMap_boundOptions? (usages : List AttributeUsage) :
    (usages.filterMap boundOptions?).length = usages.countP fun usage => (bindUsage usage).isOk := by
  rw [List.length_filterMap_eq_countP]
  congr 1
  funext usage
  rw [boundOptions?]
  cases bindUsage usage <;> rfl

/-- One use binds and no other does exactly if one set of options is bound. -/
theorem soleBinding_iff {o : MarkerOptions} :
    SoleBinding c e o ↔ (c.usagesOf e.markerPath).filterMap boundOptions? = [o] := by
  constructor
  · rintro ⟨before, usage, after, husages, ho, hothers⟩
    have hnone : ∀ us : List AttributeUsage, (∀ u ∈ us, u ∈ before ++ after) →
        us.filterMap boundOptions? = [] := by
      intro us hus
      rw [List.filterMap_eq_nil_iff]
      exact fun u hu => boundOptions?_eq_none_iff.mpr (hothers u (hus u hu))
    rw [husages, List.filterMap_append, List.filterMap_cons,
      hnone before fun u hu => List.mem_append_left _ hu,
      hnone after fun u hu => List.mem_append_right _ hu, boundOptions?_eq_some_iff.mpr ho]
    rfl
  · intro h
    obtain ⟨before, usage, after, husages, hbefore, ho, hafter⟩ :=
      List.filterMap_eq_cons_iff.mp h
    rw [List.filterMap_eq_nil_iff] at hafter
    refine ⟨before, usage, after, husages, boundOptions?_eq_some_iff.mp ho, fun other hother => ?_⟩
    rcases List.mem_append.mp hother with hmem | hmem
    · exact boundOptions?_eq_none_iff.mp (hbefore other hmem)
    · exact boundOptions?_eq_none_iff.mp (hafter other hmem)

/-- The marker is bound exactly if one of its uses binds and no other does. -/
theorem bindMarker_eq_ok_iff {o : MarkerOptions} :
    bindMarker c e = .ok o ↔ SoleBinding c e o := by
  rw [soleBinding_iff, bindMarker]
  rcases hbound : (c.usagesOf e.markerPath).filterMap boundOptions? with _ | ⟨o', _ | ⟨o'', os⟩⟩
  · dsimp only
    cases (c.usagesOf e.markerPath).findSome? bindingError? <;> simp
  · simp
  · simp

/-- If no use binds, the first one's error is the first error. -/
theorem findSome?_bindingError? {usages : List AttributeUsage}
    (h : ∀ usage ∈ usages, ∀ o, bindUsage usage ≠ .ok o) :
    usages.findSome? bindingError? = usages.head?.bind bindingError? := by
  cases usages with
  | nil => rfl
  | cons usage usages =>
    rw [List.findSome?_cons, List.head?_cons, Option.bind_some]
    cases hbind : bindUsage usage with
    | ok o => exact absurd hbind (h usage (List.mem_cons_self ..) o)
    | error error => rw [bindingError?, hbind]

/-- **Why a marker is not bound**: it is not there, none of its uses binds, or several do. -/
theorem bindMarker_eq_error_iff {error : GenerationError} :
    bindMarker c e = .error error ↔
      (c.usagesOf e.markerPath = [] ∧ error = .missingMarker e) ∨
      (∃ first, FirstFailure c e first ∧ error = .invalidMarker e first) ∨
      (2 ≤ bindingCount c e ∧ error = .ambiguousMarker e (bindingCount c e)) := by
  have hcount := length_filterMap_boundOptions? (c.usagesOf e.markerPath)
  rw [← bindingCount] at hcount
  rw [bindMarker]
  rcases hbound : (c.usagesOf e.markerPath).filterMap boundOptions? with _ | ⟨o, _ | ⟨o', os⟩⟩
  · -- No use binds, so if there is one at all, the first has an error.
    rw [hbound, List.length_nil] at hcount
    have hnone : ∀ usage ∈ c.usagesOf e.markerPath, ∀ o, bindUsage usage ≠ .ok o := by
      rw [List.filterMap_eq_nil_iff] at hbound
      exact fun usage hmem => boundOptions?_eq_none_iff.mp (hbound usage hmem)
    dsimp only
    rw [findSome?_bindingError? hnone]
    rcases husages : c.usagesOf e.markerPath with _ | ⟨usage, usages⟩
    · simp [FirstFailure, husages, ← hcount, eq_comm]
    · rw [List.head?_cons, Option.bind_some, bindingError?]
      cases hbind : bindUsage usage with
      | ok o => exact absurd hbind (hnone usage (by simp [husages]) o)
      | error first => simp [FirstFailure, husages, ← hcount, hbind, eq_comm]
  · rw [hbound, List.length_singleton] at hcount
    have hsome : c.usagesOf e.markerPath ≠ [] := by
      rintro hnil
      rw [hnil] at hbound
      cases hbound
    simp [FirstFailure, ← hcount, hsome]
  · rw [hbound, List.length_cons, List.length_cons] at hcount
    have hsome : c.usagesOf e.markerPath ≠ [] := by
      rintro hnil
      rw [hnil] at hbound
      cases hbound
    simp [FirstFailure, hsome, ← hcount, eq_comm]

/-! ## The member that supplies settings -/

/-- The marker requests settings from a member: the option is set, and not to an empty name. -/
def Requests (o : MarkerOptions) (name : String) : Prop := o.settings = some name ∧ name ≠ ""

/-- The marker requests this member, and no member of the candidate supplies settings under that
name. -/
def Unresolved (c : Candidate) (o : MarkerOptions) (name : String) : Prop :=
  Requests o name ∧ ∀ m ∈ c.members, providerShape? name m = none

/-- The marker requests no member, or one that supplies settings, or it does not have to. -/
def Settled (c : Candidate) (config : Configuration) (o : MarkerOptions) : Prop :=
  (∀ name, ¬Requests o name) ∨
    (∃ name, Requests o name ∧ ∃ m ∈ c.members, providerShape? name m ≠ none) ∨
    config.unresolved ≠ .deny

/-- The settings that are looked for are those that are requested. -/
theorem effectiveSettings_eq_some_iff {o : MarkerOptions} {name : String} :
    o.effectiveSettings = some name ↔ Requests o name := by
  rw [MarkerOptions.effectiveSettings, Option.filter_eq_some_iff, Requests]
  simp

/-- The warning about a member that does not supply settings. -/
def unresolvedWarning (c : Candidate) (name : String) : Diagnostic :=
  ⟨.unresolvedSettingsMember, .warning, c.target, (GenerationError.unresolvedSettings name).message⟩

theorem not_settled_iff {o : MarkerOptions} :
    ¬Settled c config o ↔ config.unresolved = .deny ∧ ∃ name, Unresolved c o name := by
  simp only [Settled, Unresolved, ← effectiveSettings_eq_some_iff]
  cases o.effectiveSettings <;> simp [and_comm]

/-- A name stays unresolved exactly if no member supplies settings under it. -/
theorem unresolved?_ofOptions {o : MarkerOptions} {name : String} :
    (Resolution.ofOptions o c.members).unresolved? = some name ↔ Unresolved c o name := by
  rw [Unresolved, ← effectiveSettings_eq_some_iff, Resolution.unresolved?, Resolution.ofOptions]
  cases o.effectiveSettings with
  | none => simp
  | some requested =>
    rw [Option.bind_some, settingsProvider?]
    cases hshape : c.members.findSome? (providerShape? requested) with
    | none =>
      rw [List.findSome?_eq_none_iff] at hshape
      simp only [Option.map_none, Option.some.injEq, iff_self_and]
      rintro rfl
      exact hshape
    | some shape =>
      obtain ⟨m, hm, hsome⟩ := List.exists_of_findSome?_eq_some hshape
      simp only [Option.map_some, reduceCtorEq, Option.some.injEq, false_iff, not_and]
      rintro rfl hnone
      rw [hnone m hm] at hsome
      cases hsome

/-- Only a policy that denies makes an error of an unresolved name. -/
theorem unresolvedWarnings_eq_error_iff (target : String) {o : MarkerOptions}
    {error : GenerationError} :
    unresolvedWarnings config.unresolved target (.ofOptions o c.members) = .error error ↔
      config.unresolved = .deny ∧ ∃ name, Unresolved c o name ∧ error = .unresolvedSettings name := by
  simp only [← unresolved?_ofOptions]
  rw [unresolvedWarnings]
  cases (Resolution.ofOptions o c.members).unresolved? with
  | none => simp
  | some name => cases config.unresolved <;> simp [UnresolvedPolicy.severity?, eq_comm]

/-- What is raised otherwise: one warning for an unresolved name, if the policy warns. -/
theorem unresolvedWarnings_eq_ok {o : MarkerOptions} {warnings : Diagnostics}
    (h : unresolvedWarnings config.unresolved c.target (.ofOptions o c.members) = .ok warnings) :
    (∀ name, config.unresolved = .warn → Unresolved c o name →
        warnings = [unresolvedWarning c name]) ∧
      ((config.unresolved ≠ .warn ∨ ∀ name, ¬Unresolved c o name) → warnings = []) := by
  simp only [← unresolved?_ofOptions]
  rw [unresolvedWarnings] at h
  cases hname : (Resolution.ofOptions o c.members).unresolved? with
  | none =>
    rw [hname] at h
    simp [Except.ok.inj h.symm]
  | some name =>
    rw [hname] at h
    cases hpolicy : config.unresolved with
    | allow =>
      rw [hpolicy] at h
      simp [Except.ok.inj h.symm]
    | warn =>
      rw [hpolicy] at h
      rw [← Except.ok.inj h]
      simp [unresolvedWarning]
    | deny =>
      rw [hpolicy] at h
      cases h

/-! ## The types around the candidate -/

/-- All types around the candidate are open. -/
def AllOpen (c : Candidate) : Prop := ∀ h ∈ c.enclosing, .partial_ ∈ h.modifiers

/-- This is the outermost type around the candidate that is not open. -/
def OutermostClosed (c : Candidate) (h : TypeHeader) : Prop :=
  .partial_ ∉ h.modifiers ∧
    ∃ outer inner, c.enclosing = outer ++ h :: inner ∧ ∀ around ∈ outer, .partial_ ∈ around.modifiers

theorem closedScope?_eq_none_iff : Source.closedScope? c = none ↔ AllOpen c := by
  simp [Source.closedScope?, AllOpen, Modifiers.isPartial]

theorem closedScope?_eq_some_iff {h : TypeHeader} :
    Source.closedScope? c = some h ↔ OutermostClosed c h := by
  simp [Source.closedScope?, OutermostClosed, Modifiers.isPartial, List.find?_eq_some_iff_append]

theorem not_allOpen_iff : ¬AllOpen c ↔ ∃ h, OutermostClosed c h := by
  simp only [← closedScope?_eq_none_iff, ← closedScope?_eq_some_iff, Option.eq_none_iff_forall_ne_some,
    not_forall, not_not]

/-- A tree is built exactly if all types are open, and otherwise the outermost closed one is named. -/
theorem synthesize_eq_error_iff {r : Resolution} {error : GenerationError} :
    Source.synthesize c e r = .error error ↔
      ∃ h, OutermostClosed c h ∧ error = .closedScope h.reference := by
  simp only [← closedScope?_eq_some_iff]
  rw [Source.synthesize]
  cases Source.closedScope? c <;> simp [eq_comm]

/-! ## All stages -/

theorem generate_of_bindMarker_error {error : GenerationError} (h : bindMarker c e = .error error) :
    generate c e config = .error error := by
  rw [generate, resolve, h]
  rfl

theorem generate_of_bindMarker_ok {o : MarkerOptions} (h : bindMarker c e = .ok o) :
    generate c e config = generateResolved c e config (.ofOptions o c.members) := by
  rw [generate, resolve, h]
  rfl

/-- Behind a bound marker, the policy is asked before the types around the candidate. -/
theorem generateResolved_eq_error_iff {o : MarkerOptions} {error : GenerationError} :
    generateResolved c e config (.ofOptions o c.members) = .error error ↔
      (config.unresolved = .deny ∧ ∃ name, Unresolved c o name ∧
        error = .unresolvedSettings name) ∨
      (Settled c config o ∧ ∃ h, OutermostClosed c h ∧ error = .closedScope h.reference) := by
  rw [← unresolvedWarnings_eq_error_iff c.target,
    ← synthesize_eq_error_iff (e := e) (r := .ofOptions o c.members), generateResolved]
  cases hwarnings : unresolvedWarnings config.unresolved c.target (.ofOptions o c.members) with
  | error first =>
    have hunsettled : ¬Settled c config o := by
      obtain ⟨hdeny, name, hname, -⟩ := (unresolvedWarnings_eq_error_iff c.target).mp hwarnings
      exact not_settled_iff.mpr ⟨hdeny, name, hname⟩
    simp [hunsettled, bind, Except.bind]
  | ok warnings =>
    have hsettled : Settled c config o := by
      refine not_not.mp fun hunsettled => ?_
      obtain ⟨hdeny, name, hname⟩ := not_settled_iff.mp hunsettled
      have herror := (unresolvedWarnings_eq_error_iff c.target).mpr ⟨hdeny, name, hname, rfl⟩
      rw [hwarnings] at herror
      cases herror
    cases Source.synthesize c e (.ofOptions o c.members) <;>
      simp [hsettled, bind, Except.bind, pure, Except.pure]

/-- **Why there is no unit**, in the order in which the obstacles are met. -/
theorem generate_eq_error_iff {error : GenerationError} :
    generate c e config = .error error ↔
      bindMarker c e = .error error ∨
      ∃ o, SoleBinding c e o ∧
        ((config.unresolved = .deny ∧ ∃ name, Unresolved c o name ∧
            error = .unresolvedSettings name) ∨
          (Settled c config o ∧ ∃ h, OutermostClosed c h ∧ error = .closedScope h.reference)) := by
  simp only [← bindMarker_eq_ok_iff]
  cases hbind : bindMarker c e with
  | error first =>
    rw [generate_of_bindMarker_error hbind]
    simp
  | ok o =>
    rw [generate_of_bindMarker_ok hbind, generateResolved_eq_error_iff]
    simp

/-- **When there is a unit**: no stage meets an obstacle. -/
theorem generate_eq_ok_iff :
    (∃ generated, generate c e config = .ok generated) ↔
      (∃ o, SoleBinding c e o ∧ Settled c config o) ∧ AllOpen c := by
  simp only [← bindMarker_eq_ok_iff]
  cases hbind : bindMarker c e with
  | error first =>
    rw [generate_of_bindMarker_error hbind]
    simp
  | ok o =>
    have herror : (∃ error, generate c e config = .error error) ↔
        ¬(Settled c config o ∧ AllOpen c) := by
      rw [generate_of_bindMarker_ok hbind]
      simp only [generateResolved_eq_error_iff, not_and_or, not_settled_iff, not_allOpen_iff]
      constructor
      · rintro ⟨error, ⟨hdeny, name, hname, -⟩ | ⟨-, h, hclosed, -⟩⟩
        · exact Or.inl ⟨hdeny, name, hname⟩
        · exact Or.inr ⟨h, hclosed⟩
      · rintro (⟨hdeny, name, hname⟩ | ⟨h, hclosed⟩)
        · exact ⟨_, Or.inl ⟨hdeny, name, hname, rfl⟩⟩
        · -- Both may stand in the way, and then the settings come first.
          by_cases hsettled : Settled c config o
          · exact ⟨_, Or.inr ⟨hsettled, h, hclosed, rfl⟩⟩
          · obtain ⟨hdeny, name, hname⟩ := not_settled_iff.mp hsettled
            exact ⟨_, Or.inl ⟨hdeny, name, hname, rfl⟩⟩
    have hone : (∃ generated, generate c e config = .ok generated) ↔
        ¬∃ error, generate c e config = .error error := by
      cases generate c e config <;> simp
    rw [hone, herror, not_not]
    simp

/-- What is warned of along with a unit. -/
theorem warnings_of_generate {generated : Generated} {o : MarkerOptions}
    (h : generate c e config = .ok generated) (ho : SoleBinding c e o) :
    (∀ name, config.unresolved = .warn → Unresolved c o name →
        generated.warnings = [unresolvedWarning c name]) ∧
      ((config.unresolved ≠ .warn ∨ ∀ name, ¬Unresolved c o name) → generated.warnings = []) := by
  rw [generate_of_bindMarker_ok (bindMarker_eq_ok_iff.mpr ho), generateResolved] at h
  cases hwarnings : unresolvedWarnings config.unresolved c.target (.ofOptions o c.members) with
  | error error =>
    rw [hwarnings] at h
    cases h
  | ok warnings =>
    rw [hwarnings] at h
    cases htree : Source.synthesize c e (.ofOptions o c.members) with
    | error error =>
      rw [htree] at h
      cases h
    | ok tree =>
      rw [htree] at h
      rw [← Except.ok.inj h]
      exact unresolvedWarnings_eq_ok hwarnings

/-- An eligible candidate has the marker. -/
theorem usagesOf_ne_nil_of_eligible (h : eligible c e = true) : c.usagesOf e.markerPath ≠ [] := by
  intro hnil
  have habsent : c.hasAttribute e.markerPath = false := by
    rw [Candidate.hasAttribute, List.any_eq_false]
    exact fun usage hmem hpath =>
      List.filter_eq_nil_iff.mp hnil usage hmem hpath
  rw [eligible, rejection?, habsent] at h
  revert h
  cases c.modifiers.isPartial <;> cases c.modifiers.isStatic <;> simp

/-- What becomes of a candidate and an engine: when there is a unit, which warnings come with it, and
which error there is otherwise.  An error comes without warnings. -/
structure Verdict (c : Candidate) (e : Engine) (config : Configuration) : Prop where
  /-- There is a unit exactly if one use of the marker binds, its settings are settled, and all types
  around the candidate are open. -/
  succeeds : (∃ generated, generate c e config = .ok generated) ↔
    (∃ o, SoleBinding c e o ∧ Settled c config o) ∧ AllOpen c
  /-- The marker is missing exactly if it is not used at all. -/
  missing : ∀ e', generate c e config = .error (.missingMarker e') ↔
    e' = e ∧ c.usagesOf e.markerPath = []
  /-- The marker is invalid exactly if it is used and no use binds, and the error is the first
  one's. -/
  invalid : ∀ e' error, generate c e config = .error (.invalidMarker e' error) ↔
    e' = e ∧ FirstFailure c e error
  /-- The marker is ambiguous exactly if several uses bind, and those are counted. -/
  ambiguous : ∀ e' count, generate c e config = .error (.ambiguousMarker e' count) ↔
    e' = e ∧ count = bindingCount c e ∧ 2 ≤ count
  /-- A member is reported exactly if the one use that binds requests it, it does not supply
  settings, and the policy denies that. -/
  unresolved : ∀ name, generate c e config = .error (.unresolvedSettings name) ↔
    config.unresolved = .deny ∧ ∃ o, SoleBinding c e o ∧ Unresolved c o name
  /-- A type is reported exactly if it is the outermost one that is closed and nothing else stands in
  the way. -/
  closed : ∀ scope, generate c e config = .error (.closedScope scope) ↔
    (∃ o, SoleBinding c e o ∧ Settled c config o) ∧
      ∃ h, OutermostClosed c h ∧ scope = h.reference
  /-- There is one warning exactly if the policy warns and a member does not supply settings. -/
  warned : ∀ generated o, generate c e config = .ok generated → SoleBinding c e o →
    (∀ name, config.unresolved = .warn → Unresolved c o name →
        generated.warnings = [unresolvedWarning c name]) ∧
      ((config.unresolved ≠ .warn ∨ ∀ name, ¬Unresolved c o name) → generated.warnings = [])
  /-- The marker is not missing from an eligible candidate. -/
  present : eligible c e = true → ∀ e', generate c e config ≠ .error (.missingMarker e')

/-- **The verdict on every candidate.** -/
theorem generate_verdict (c : Candidate) (e : Engine) (config : Configuration) :
    Verdict c e config := by
  have hmissing : ∀ e', generate c e config = .error (.missingMarker e') ↔
      e' = e ∧ c.usagesOf e.markerPath = [] := by
    intro e'
    rw [generate_eq_error_iff, bindMarker_eq_error_iff]
    simp [and_comm]
  constructor
  case succeeds => exact generate_eq_ok_iff
  case missing => exact hmissing
  case invalid =>
    intro e' error
    rw [generate_eq_error_iff, bindMarker_eq_error_iff]
    constructor
    · rintro ((⟨-, h⟩ | ⟨first, hfirst, h⟩ | ⟨-, h⟩) | ⟨_, -, ⟨-, _, -, h⟩ | ⟨-, _, -, h⟩⟩) <;> cases h
      exact ⟨rfl, hfirst⟩
    · rintro ⟨rfl, hfirst⟩
      exact Or.inl (Or.inr (Or.inl ⟨error, hfirst, rfl⟩))
  case ambiguous =>
    intro e' count
    rw [generate_eq_error_iff, bindMarker_eq_error_iff]
    constructor
    · rintro ((⟨-, h⟩ | ⟨_, -, h⟩ | ⟨hmany, h⟩) | ⟨_, -, ⟨-, _, -, h⟩ | ⟨-, _, -, h⟩⟩) <;> cases h
      exact ⟨rfl, rfl, hmany⟩
    · rintro ⟨rfl, rfl, hmany⟩
      exact Or.inl (Or.inr (Or.inr ⟨hmany, rfl⟩))
  case unresolved =>
    intro name
    rw [generate_eq_error_iff, bindMarker_eq_error_iff]
    constructor
    · rintro ((⟨-, h⟩ | ⟨_, -, h⟩ | ⟨-, h⟩) | ⟨o, ho, ⟨hdeny, _, hname, h⟩ | ⟨-, _, -, h⟩⟩) <;> cases h
      exact ⟨hdeny, o, ho, hname⟩
    · rintro ⟨hdeny, o, ho, hname⟩
      exact Or.inr ⟨o, ho, Or.inl ⟨hdeny, name, hname, rfl⟩⟩
  case closed =>
    intro scope
    rw [generate_eq_error_iff, bindMarker_eq_error_iff]
    constructor
    · rintro ((⟨-, h⟩ | ⟨_, -, h⟩ | ⟨-, h⟩) | ⟨o, ho, ⟨-, _, -, h⟩ | ⟨hsettled, h', hclosed, h⟩⟩) <;>
        cases h
      exact ⟨⟨o, ho, hsettled⟩, h', hclosed, rfl⟩
    · rintro ⟨⟨o, ho, hsettled⟩, h, hclosed, rfl⟩
      exact Or.inr ⟨o, ho, Or.inr ⟨hsettled, h, hclosed, rfl⟩⟩
  case warned => exact fun _ _ => warnings_of_generate
  case present =>
    intro h e' hgenerate
    exact usagesOf_ne_nil_of_eligible h ((hmissing e').mp hgenerate).2

end DataContract
