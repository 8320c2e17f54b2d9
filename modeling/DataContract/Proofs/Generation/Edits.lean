import DataContract.Pass.Emission
import DataContract.Proofs.Generation.Relevant
import Mathlib.Logic.Relation

/-!
# Edits that change nothing

A type is edited all the time, and most edits do not concern its unit: members of its instances come
and go, other attributes are applied to it, the order of either changes.  Such an edit is *idle* for
an engine, and this module says that neither the cache key nor anything that is generated notices it.

* `IdleEdit` is one edit of a list that touches no item that counts.  An item that does not count is
  put in, taken out, or moved past others.
* `edits_iff_filter_eq` --- idle edits, one after the other, get from one list to another exactly if
  the two hold the same items that count in the same order.  So idle edits are all there is to change.
* `Candidate.Edited` are the candidates that idle edits of the members and of the attributes lead to.
  The static members count, and the uses of the engine's marker.
* `unchanged_of_edited` --- the key and the outcome of generation are the same, so a unit that has
  been kept for the candidate is found for the edited one, and it is the right one.
-/

namespace DataContract

open Declaration

/-! ## Edits of a list -/

/-- One edit of a list that leaves alone the items that count. -/
inductive IdleEdit {α : Type} (counts : α → Bool) : List α → List α → Prop
  | insert {x : α} (hx : counts x = false) (before after : List α) :
      IdleEdit counts (before ++ after) (before ++ x :: after)
  | remove {x : α} (hx : counts x = false) (before after : List α) :
      IdleEdit counts (before ++ x :: after) (before ++ after)
  | moveBack {x : α} (hx : counts x = false) (before between after : List α) :
      IdleEdit counts (before ++ x :: (between ++ after)) (before ++ (between ++ x :: after))
  | moveForward {x : α} (hx : counts x = false) (before between after : List α) :
      IdleEdit counts (before ++ (between ++ x :: after)) (before ++ x :: (between ++ after))

section Lists

variable {α : Type} {counts : α → Bool} {xs ys : List α}

/-- What does not count can be left out. -/
theorem filter_append_cons {x : α} (hx : counts x = false) (before after : List α) :
    (before ++ x :: after).filter counts = (before ++ after).filter counts := by
  rw [List.filter_append, List.filter_append, List.filter_cons_of_neg (by simp [hx])]

/-- An idle edit keeps the items that count, in their order. -/
theorem IdleEdit.filter_eq (h : IdleEdit counts xs ys) : xs.filter counts = ys.filter counts := by
  have hmoved : ∀ {x : α}, counts x = false → ∀ before between after : List α,
      (before ++ x :: (between ++ after)).filter counts =
        (before ++ (between ++ x :: after)).filter counts := by
    intro x hx before between after
    rw [filter_append_cons hx, ← List.append_assoc before between (x :: after),
      filter_append_cons hx, List.append_assoc]
  cases h with
  | insert hx before after => exact (filter_append_cons hx before after).symm
  | remove hx before after => exact filter_append_cons hx before after
  | moveBack hx before between after => exact hmoved hx before between after
  | moveForward hx before between after => exact (hmoved hx before between after).symm

/-- An idle edit can be undone. -/
instance : Std.Symm (IdleEdit counts) where
  symm xs ys h := by
    cases h with
    | insert hx before after => exact .remove hx before after
    | remove hx before after => exact .insert hx before after
    | moveBack hx before between after => exact .moveForward hx before between after
    | moveForward hx before between after => exact .moveBack hx before between after

/-- Everything that does not count can be taken out, one item after the other. -/
theorem edits_filter (counts : α → Bool) (before xs : List α) :
    Relation.ReflTransGen (IdleEdit counts) (before ++ xs) (before ++ xs.filter counts) := by
  induction xs generalizing before with
  | nil => exact .refl
  | cons x xs ih =>
    cases hx : counts x with
    | true =>
      have hrest := ih (before ++ [x])
      rw [List.filter_cons_of_pos hx]
      simpa using hrest
    | false =>
      rw [List.filter_cons_of_neg (by simp [hx])]
      exact .head (.remove hx before xs) (ih before)

/-- **Idle edits lead exactly to the lists with the same items that count.** -/
theorem edits_iff_filter_eq :
    Relation.ReflTransGen (IdleEdit counts) xs ys ↔ xs.filter counts = ys.filter counts := by
  constructor
  · intro h
    induction h with
    | refl => rfl
    | tail _ hstep ih => exact ih.trans hstep.filter_eq
  · intro h
    have hout : Relation.ReflTransGen (IdleEdit counts) xs (xs.filter counts) :=
      edits_filter counts [] xs
    have hin : Relation.ReflTransGen (IdleEdit counts) (ys.filter counts) ys :=
      Std.Symm.symm _ _ (edits_filter counts [] ys)
    exact (h ▸ hout).trans hin

end Lists

/-! ## Edits of a candidate -/

namespace Declaration.Candidate

/-- One edit of a candidate that touches neither a static member nor a use of the engine's marker. -/
inductive IdleEdit (e : Engine) : Candidate → Candidate → Prop
  | members (c : Candidate) {members : List Member}
      (h : DataContract.IdleEdit Member.isStatic c.members members) :
      IdleEdit e c { c with members := members }
  | attributes (c : Candidate) {attributes : List AttributeUsage}
      (h : DataContract.IdleEdit (·.is e.markerPath) c.attributes attributes) :
      IdleEdit e c { c with attributes := attributes }

/-- A candidate is what idle edits have made of another. -/
def Edited (c : Candidate) (e : Engine) (d : Candidate) : Prop :=
  Relation.ReflTransGen (IdleEdit e) c d

variable {c d : Candidate} {e : Engine}

/-- An idle edit keeps what a unit depends on. -/
theorem IdleEdit.relevantTo_eq (h : IdleEdit e c d) : c.relevantTo e = d.relevantTo e := by
  cases h with
  | members h =>
    rw [relevantTo, h.filter_eq]
    rfl
  | attributes h =>
    rw [relevantTo, usagesOf, h.filter_eq]
    rfl

theorem edited_members (c : Candidate) {members : List Member}
    (h : Relation.ReflTransGen (DataContract.IdleEdit Member.isStatic) c.members members) :
    c.Edited e { c with members := members } := by
  induction h with
  | refl => exact .refl
  | tail _ hstep ih => exact ih.tail (.members _ hstep)

theorem edited_attributes (c : Candidate) {attributes : List AttributeUsage}
    (h : Relation.ReflTransGen (DataContract.IdleEdit (·.is e.markerPath)) c.attributes attributes) :
    c.Edited e { c with attributes := attributes } := by
  induction h with
  | refl => exact .refl
  | tail _ hstep ih => exact ih.tail (.attributes _ hstep)

/-- **Idle edits lead exactly to the candidates in which the same is relevant.** -/
theorem edited_iff : c.Edited e d ↔ c.relevantTo e = d.relevantTo e := by
  constructor
  · intro h
    induction h with
    | refl => rfl
    | tail _ hstep ih => exact ih.trans hstep.relevantTo_eq
  · intro h
    rw [relevantTo, relevantTo, Candidate.mk.injEq] at h
    obtain ⟨hheader, hattributes, hmembers, henclosing, hwithin⟩ := h
    have hfirst : c.Edited e { c with members := d.members } :=
      c.edited_members (edits_iff_filter_eq.mpr hmembers)
    have hsecond : Edited { c with members := d.members } e
        { c with members := d.members, attributes := d.attributes } :=
      edited_attributes _ (edits_iff_filter_eq.mpr hattributes)
    have hlast : { c with members := d.members, attributes := d.attributes } = d := by
      rw [hheader, henclosing, hwithin]
    exact hlast ▸ hfirst.trans hsecond

end Declaration.Candidate

/-! ## Keys and units -/

/-- **A key covers nothing but what is relevant.** -/
theorem CacheKey.of_relevantTo (c : Candidate) (e : Engine) (config : Configuration) :
    of (c.relevantTo e) e config = of c e config := by
  have hmembers : (c.relevantTo e).members.filter Member.isStatic =
      c.members.filter Member.isStatic := by
    rw [Candidate.relevantTo, List.filter_filter]
    simp only [Bool.and_self]
  rw [of, c.usagesOf_relevantTo e, hmembers]
  rfl

/-- The same is generated and logged for candidates in which the same is relevant. -/
theorem generateLogged_relevantTo (c : Candidate) (e : Engine) (config : Configuration) :
    (Match.mk (c.relevantTo e) e).generateLogged config = (Match.mk c e).generateLogged config := by
  rw [Match.generateLogged, resolve_relevantTo, Match.generateLogged]
  rfl

/-- What is produced for a match depends on nothing but what is relevant, whatever the cache. -/
theorem produce_relevantTo (c : Candidate) (e : Engine) (config : Configuration)
    (cache : Option UnitCache) :
    (Match.mk (c.relevantTo e) e).produce config cache = (Match.mk c e).produce config cache := by
  have hkey : (Match.mk (c.relevantTo e) e).key config = (Match.mk c e).key config :=
    CacheKey.of_relevantTo c e config
  cases cache with
  | none => rw [Match.produce, generateLogged_relevantTo, Match.produce]
  | some cache =>
    rw [Match.produce, Match.produceCached, hkey, generateLogged_relevantTo, Match.produce,
      Match.produceCached]
    rfl

/-- A unit that has just been kept is found. -/
theorem UnitCache.get?_insert (cache : UnitCache) (key : CacheKey) (generated : Generated) :
    ((cache.insert key generated).get? key).1 = some generated := by
  simp [get?, find?, insert]

/-- **Idle edits change nothing**: neither the key nor the outcome of generation, be it a unit with
its warnings or an error, nor what is produced with any cache.  A unit that has been kept for the
candidate is found for the edited one, and it is the unit that would be generated for it. -/
theorem unchanged_of_edited {c d : Candidate} {e : Engine} (h : c.Edited e d)
    (config : Configuration) :
    CacheKey.of d e config = CacheKey.of c e config ∧
      generate d e config = generate c e config ∧
      (∀ cache, (Match.mk d e).produce config cache = (Match.mk c e).produce config cache) ∧
      ∀ (cache : UnitCache) (generated : Generated), generate c e config = .ok generated →
        let found := (Match.mk d e).produceCached config
          (cache.insert (CacheKey.of c e config) generated)
        found.hit = true ∧ found.result = generate d e config := by
  have hrelevant := Candidate.edited_iff.mp h
  have hkey : CacheKey.of d e config = CacheKey.of c e config := by
    rw [← CacheKey.of_relevantTo d, ← hrelevant, CacheKey.of_relevantTo]
  have hgenerate : generate d e config = generate c e config :=
    generate_congr hrelevant.symm rfl rfl
  refine ⟨hkey, hgenerate, fun cache => ?_, fun cache generated hgenerated => ?_⟩
  · rw [← produce_relevantTo d, ← hrelevant, produce_relevantTo]
  · have hfound : (cache.insert (CacheKey.of c e config) generated).get?
        ((Match.mk d e).key config) = (some generated,
          (cache.insert (CacheKey.of c e config) generated).touch (CacheKey.of c e config)) := by
      rw [Match.key, hkey, ← cache.get?_insert (CacheKey.of c e config) generated]
      rfl
    rw [hgenerate, hgenerated, Match.produceCached, hfound]
    exact ⟨rfl, rfl⟩

/-- A type with the given attributes and members. -/
def typeWith (attributes : List AttributeUsage) (members : List Member) : Candidate where
  header := ⟨"Pair", .class_, [.partial_], []⟩
  attributes := attributes
  members := members
  enclosing := []
  within := none

/-- A use of the marker for JSON that names a member. -/
def optionsMarker : AttributeUsage :=
  ⟨Engine.json.markerPath, [⟨Engine.settingsOption, .string "Options"⟩], ""⟩

/-- The member that it names, or one of the instances if it is not static. -/
def optionsProperty (modifiers : Modifiers) : Member := .property ⟨modifiers, "Settings", "Options"⟩

/-- A type in which a member of the instances stands before the static one that the marker names. -/
def untidy : Candidate :=
  typeWith [⟨Engine.serializableMarker, [], ""⟩, optionsMarker]
    [optionsProperty [.public_], optionsProperty [.static]]

/-- The same type after some edits: an attribute has been moved and another one applied, a member of
the instances has been taken out and another one put in. -/
def tidied : Candidate :=
  typeWith [⟨Engine.xml.markerPath, [], ""⟩, optionsMarker, ⟨Engine.serializableMarker, [], ""⟩]
    [optionsProperty [.static], .other ⟨[], none⟩]

/-- The edits of that type change nothing. -/
theorem unchanged_of_edited_tidied : untidy.Edited .json tidied ∧
    CacheKey.of tidied .json .standard = CacheKey.of untidy .json .standard ∧
    generate tidied .json .standard = generate untidy .json .standard := by
  have hedited : untidy.Edited .json tidied := Candidate.edited_iff.mpr (by decide)
  have hunchanged := unchanged_of_edited hedited .standard
  exact ⟨hedited, hunchanged.1, hunchanged.2.1⟩

end DataContract
