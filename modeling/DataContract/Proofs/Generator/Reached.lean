import DataContract.Generator
import DataContract.Proofs.Cache.Provenance
import DataContract.Proofs.Pass.Submission

/-!
# The generators that one comes by

A generator starts with a valid configuration and an empty cache, and every run leaves behind a
generator.  Along the way the configuration stays the same, and the entries of the cache stem from
matches under that configuration (`Reached.sound`).

So whatever the host and however often the generator has run before, a run submits units under the
names of some of its matches, each at most once (`submissions_run`).  This needs no more of the cache
than that a key determines the name of a unit.
-/

namespace DataContract

open Declaration

/-! ## Valid configurations -/

theorem Configuration.nodup_of_firstDuplicate? {engines seen : List Engine}
    (h : firstDuplicate? seen engines = none) : engines.Nodup ∧ ∀ e ∈ engines, e ∉ seen := by
  induction engines generalizing seen with
  | nil => exact ⟨List.nodup_nil, fun _ h => nomatch h⟩
  | cons e engines ih =>
    rw [firstDuplicate?] at h
    split at h
    · cases h
    · rename_i hnew
      rw [List.contains_iff_mem] at hnew
      obtain ⟨hnodup, hdisjoint⟩ := ih h
      refine ⟨List.nodup_cons.mpr ⟨fun hmem => ?_, hnodup⟩, ?_⟩
      · exact hdisjoint e hmem (List.mem_cons_self ..)
      · intro f hf
        rcases List.mem_cons.mp hf with rfl | hf
        · exact hnew
        · exact fun hseen => hdisjoint f hf (List.mem_cons_of_mem _ hseen)

/-- A valid configuration enables no engine twice. -/
theorem Configuration.nodup_of_validate {config : Configuration}
    (h : config.validate = .ok ()) : config.engines.Nodup := by
  rw [validate] at h
  split at h
  · cases h
  · split at h
    · cases h
    · rename_i hnone
      exact (nodup_of_firstDuplicate? hnone).1

namespace Generator

/-! ## Generators -/

/-- The generators that one comes by from a configuration, over hosts that offer candidates as they
fit into a memory. -/
inductive Reached (config : Configuration) : Generator → Prop
  | start {g : Generator} (h : ofConfiguration config = .ok g) : Reached config g
  | run {g : Generator} (hg : Reached config g) {H : Type} [Host H] (h : H)
      (hoffered : ∀ c ∈ Pass.offered h, c.Addressable) : Reached config (g.run h).generator

/-- What remains true of a generator from run to run. -/
structure Sound (config : Configuration) (g : Generator) : Prop where
  configuration : g.configuration = config
  engines : config.engines.Nodup
  cache : g.cache.StemsFrom (· = config)

theorem sound_of_ofConfiguration {config : Configuration} {g : Generator}
    (h : ofConfiguration config = .ok g) : Sound config g := by
  rw [ofConfiguration] at h
  cases hvalid : config.validate with
  | error error =>
    rw [hvalid] at h
    cases h
  | ok _ =>
    rw [hvalid] at h
    rw [← Except.ok.inj h]
    exact ⟨rfl, Configuration.nodup_of_validate hvalid, UnitCache.stemsFrom_empty⟩

theorem Sound.passCache {config : Configuration} {g : Generator} (hg : Sound config g) :
    CacheStems (· = config) g.passCache := by
  rw [Generator.passCache]
  split
  · exact cacheStems_some.mpr hg.cache
  · exact fun _ h => nomatch h

/-- A run leaves behind a sound generator. -/
theorem Sound.run {config : Configuration} {g : Generator} (hg : Sound config g) {H : Type} [Host H]
    {h : H} (hoffered : ∀ c ∈ Pass.offered h, c.Addressable) :
    Sound config (g.run h).generator := by
  have hcache : CacheStems (· = config)
      ((Pass.fresh g.configuration g.passCache).run h).pass.cache := by
    rw [hg.configuration]
    refine Pass.cacheStems_run ?_ hoffered hg.passCache
    rfl
  refine ⟨hg.configuration, hg.engines, ?_⟩
  show UnitCache.StemsFrom _ (Option.getD _ _)
  cases hpass : ((Pass.fresh g.configuration g.passCache).run h).pass.cache with
  | none => exact hg.cache
  | some cache => exact hcache cache hpass

/-- **Every generator that one comes by is sound.** -/
theorem Reached.sound {config : Configuration} {g : Generator} (hg : Reached config g) :
    Sound config g := by
  induction hg with
  | start h => exact sound_of_ofConfiguration h
  | run _ h hoffered ih => exact ih.run hoffered

end Generator

/-! ## What a run submits -/

/-- A unit from a cache has the name of the match that it is given for. -/
theorem Match.name_of_produce {allowed : Configuration → Prop} {m : Match} {config : Configuration}
    (hm : m.ArisesUnder config) {cache : Option UnitCache} (hc : CacheStems allowed cache)
    {generated : Generated} (h : (m.produce config cache).result = .ok generated) :
    generated.unit.name = m.unitName := by
  cases cache with
  | none => exact name_of_generate (m.produce_none_result config ▸ h)
  | some cache =>
    rw [produce] at h
    rcases m.produceCached_eq config cache with
      ⟨found, hget, heq⟩ | ⟨-, log, ⟨found, hg, heq⟩ | ⟨error, -, heq⟩⟩
    · obtain ⟨n, other, -, hn, hkey, hg⟩ := (cacheStems_some.mp hc).of_get? hget
      obtain ⟨hname, hengine⟩ :=
        CacheKey.qualifiedName_of_eq hm.addressable hn.addressable hkey
      rw [heq] at h
      rw [← Except.ok.inj h, name_of_generate hg, unitName, unitName, UnitName.ofCandidate,
        UnitName.ofCandidate, hname, hengine]
    · rw [heq] at h
      rw [← Except.ok.inj h]
      exact name_of_generate hg
    · rw [heq] at h
      cases h

namespace Generator

/-- The event that ends a run is not about a unit. -/
theorem submissions_run_eq {H : Type} [Host H] (g : Generator) (h : H) :
    submissions (g.run h).log =
      submissions ((Pass.fresh g.configuration g.passCache).run h).log := by
  have hcompletion : ∀ result, submissions (completionEvents result) = [] := by
    intro result
    cases result <;> rfl
  rw [Generator.run]
  dsimp only
  rw [submissions_append, hcompletion, List.append_nil]

/-- **A run submits the names of some of its matches**, in their order and each at most once. -/
theorem Sound.submissions_run {config : Configuration} {g : Generator} (hg : Sound config g)
    {H : Type} [Host H] {h : H} (hoffered : ∀ c ∈ Pass.offered h, c.Addressable) :
    ∃ taken : List Match,
      taken.Sublist ((Pass.offered h).flatMap (Pass.matchesOf config)) ∧
        submissions (g.run h).log = taken.map Match.unitName := by
  rw [submissions_run_eq, hg.configuration]
  rcases hd : Pass.declareMarkers Engine.all h with ⟨_ | _, h'⟩
  · rw [Pass.run_fresh_of_error config g.passCache hd]
    exact ⟨[], List.nil_sublist _, rfl⟩
  · rw [Pass.submissions_run hd]
    have harises : ∀ m ∈ (Pass.offered h).flatMap (Pass.matchesOf config), m.ArisesUnder config :=
      fun m hm => Pass.arisesUnder_of_mem hoffered hm
    refine Emission.submissions_emitAll (P := CacheStems (· = config)) (fun m hm cache hc => ?_)
      (fun m hm cache hc generated h => Match.name_of_produce (harises m hm) hc h) hg.passCache
    refine Match.cacheStems_produce ?_ (harises m hm) hc
    rfl

end Generator

end DataContract
