import DataContract.Proofs.Cache.Separation
import DataContract.Proofs.Pass.Delivery
import DataContract.Proofs.Pass.Run

/-!
# Where the entries of a cache come from

Whatever a cache goes through, each of its entries stems from a match: the unit is the one that was
generated for it, and the key is the one that it had.  `UnitCache.StemsFrom` is this invariant, and
every operation that a run performs on a cache preserves it, also if the host ends the run early.

It does not say that an entry is right for every match that has its key.  That is the case if no two
configurations in use can be confused (`produce_result`).
-/

namespace DataContract

open Declaration

variable {allowed : Configuration → Prop}

/-- A match that a run under a configuration can come upon. -/
structure Match.ArisesUnder (m : Match) (config : Configuration) : Prop where
  engine : m.engine ∈ config.engines
  addressable : m.candidate.Addressable

/-- An entry with the key of a match under an allowed configuration and the unit generated for
it. -/
def CacheEntry.StemsFrom (allowed : Configuration → Prop) (entry : CacheEntry) : Prop :=
  ∃ (m : Match) (config : Configuration), allowed config ∧ m.ArisesUnder config ∧
    entry.key = m.key config ∧ generate m.candidate m.engine config = .ok entry.generated

/-- A cache all of whose entries stem from matches under allowed configurations. -/
def UnitCache.StemsFrom (allowed : Configuration → Prop) (cache : UnitCache) : Prop :=
  ∀ entry ∈ cache.entries, entry.StemsFrom allowed

namespace UnitCache

/-! ## Operations on a cache -/

theorem stemsFrom_empty : empty.StemsFrom allowed := by
  intro entry h
  exact absurd h List.not_mem_nil

/-- A mark changes neither the key nor the unit. -/
theorem StemsFrom.touch {cache : UnitCache} (hc : cache.StemsFrom allowed) (key : CacheKey) :
    (cache.touch key).StemsFrom allowed := by
  intro entry h
  obtain ⟨old, hold, rfl⟩ := List.mem_map.mp h
  by_cases hkey : old.key == key
  · rw [if_pos hkey]
    exact hc old hold
  · rw [if_neg hkey]
    exact hc old hold

theorem StemsFrom.insert {cache : UnitCache} (hc : cache.StemsFrom allowed) {m : Match}
    {config : Configuration} (ha : allowed config) (hm : m.ArisesUnder config)
    {generated : Generated} (hg : generate m.candidate m.engine config = .ok generated) :
    (cache.insert (m.key config) generated).StemsFrom allowed := by
  intro entry h
  rcases List.mem_cons.mp h with rfl | h
  · exact ⟨m, config, ha, hm, rfl, hg⟩
  · exact hc entry (List.mem_filter.mp h).1

theorem StemsFrom.sweep {cache : UnitCache} (hc : cache.StemsFrom allowed) :
    cache.sweep.StemsFrom allowed := by
  intro entry h
  obtain ⟨old, hold, rfl⟩ := List.mem_map.mp h
  exact hc old (List.mem_filter.mp hold).1

/-- A unit that is found stems from a match with the key that was looked up. -/
theorem StemsFrom.of_get? {cache : UnitCache} (hc : cache.StemsFrom allowed) {key : CacheKey}
    {generated : Generated} (h : (cache.get? key).1 = some generated) :
    ∃ (m : Match) (config : Configuration), allowed config ∧ m.ArisesUnder config ∧
      key = m.key config ∧ generate m.candidate m.engine config = .ok generated := by
  obtain ⟨entry, hfind, rfl⟩ := Option.map_eq_some_iff.mp h
  have hkey : entry.key = key := by
    have := List.find?_some hfind
    exact eq_of_beq this
  obtain ⟨m, config, ha, hm, hstem, hg⟩ := hc entry (List.mem_of_find?_eq_some hfind)
  exact ⟨m, config, ha, hm, by rw [← hkey, hstem], hg⟩

end UnitCache

/-! ## Producing -/

/-- All that is to know about a cache that there may be. -/
def CacheStems (allowed : Configuration → Prop) (cache : Option UnitCache) : Prop :=
  ∀ c ∈ cache, c.StemsFrom allowed

theorem cacheStems_some {cache : UnitCache} :
    CacheStems allowed (some cache) ↔ cache.StemsFrom allowed := by
  simp [CacheStems]

namespace Match

/-- What a cached production amounts to: a hit, or a miss and what is generated. -/
theorem produceCached_eq (m : Match) (config : Configuration) (cache : UnitCache) :
    (∃ generated, (cache.get? (m.key config)).1 = some generated ∧
      m.produceCached config cache =
        ⟨.ok generated, some (cache.touch (m.key config)), true,
          [.cacheHit m.candidate.name m.engine]⟩) ∨
    ((cache.get? (m.key config)).1 = none ∧ ∃ log,
      (∃ generated, generate m.candidate m.engine config = .ok generated ∧
        m.produceCached config cache =
          ⟨.ok generated, some ((cache.touch (m.key config)).insert (m.key config) generated), false,
            log⟩) ∨
      (∃ error, generate m.candidate m.engine config = .error error ∧
        m.produceCached config cache =
          ⟨.error error, some (cache.touch (m.key config)), false, log⟩)) := by
  have hsplit : cache.get? (m.key config) =
      ((cache.get? (m.key config)).1, cache.touch (m.key config)) := rfl
  have hgen := m.generateLogged_fst config
  rcases hlogged : m.generateLogged config with ⟨made, log⟩
  rw [hlogged] at hgen
  rw [produceCached, hsplit]
  cases hget : (cache.get? (m.key config)).1 with
  | some generated => exact Or.inl ⟨generated, rfl, rfl⟩
  | none =>
    refine Or.inr ⟨rfl, log, ?_⟩
    rw [← hgen, hlogged]
    cases made with
    | ok generated => exact Or.inl ⟨generated, rfl, rfl⟩
    | error error => exact Or.inr ⟨error, rfl, rfl⟩

/-- **Production preserves where entries come from.** -/
theorem cacheStems_produce {m : Match} {config : Configuration} (ha : allowed config)
    (hm : m.ArisesUnder config) {cache : Option UnitCache} (hc : CacheStems allowed cache) :
    CacheStems allowed (m.produce config cache).cache := by
  cases cache with
  | none => exact hc
  | some cache =>
    have hcache := cacheStems_some.mp hc
    have htouch := hcache.touch (m.key config)
    rw [produce]
    rcases m.produceCached_eq config cache with
      ⟨generated, -, heq⟩ | ⟨-, log, ⟨generated, hg, heq⟩ | ⟨error, -, heq⟩⟩
    · rw [heq]
      exact cacheStems_some.mpr htouch
    · rw [heq]
      exact cacheStems_some.mpr (htouch.insert ha hm hg)
    · rw [heq]
      exact cacheStems_some.mpr htouch

/-- **A cache produces what is generated**, if no two allowed configurations can be confused. -/
theorem produce_result {m : Match} {config : Configuration} (ha : allowed config)
    (hm : m.ArisesUnder config)
    (hconfusable : ∀ a b, allowed a → allowed b → ¬CacheKey.Confusable a b)
    {cache : Option UnitCache} (hc : CacheStems allowed cache) :
    (m.produce config cache).result = generate m.candidate m.engine config := by
  cases cache with
  | none => exact m.produce_none_result config
  | some cache =>
    rw [produce]
    rcases m.produceCached_eq config cache with
      ⟨generated, hget, heq⟩ | ⟨-, log, ⟨generated, hg, heq⟩ | ⟨error, hg, heq⟩⟩
    · obtain ⟨n, other, hb, hn, hkey, hg⟩ := (cacheStems_some.mp hc).of_get? hget
      rw [heq, ← hg]
      rcases CacheKey.of_eq_of hm.addressable hn.addressable hm.engine hn.engine hkey with
        ⟨hengine, hrelevant, hpolicy, hlayout⟩ | hab | hba
      · rw [hengine] at hrelevant ⊢
        exact (generate_congr hrelevant hpolicy hlayout).symm
      · exact absurd hab (hconfusable config other ha hb)
      · exact absurd hba (hconfusable other config hb ha)
    · rw [heq, hg]
    · rw [heq, hg]

end Match

/-! ## Runs -/

namespace Pass

variable {H : Type} [Host H]

/-- Every match of an addressable candidate can come up. -/
theorem arisesUnder_of_mem {config : Configuration} {cs : List Candidate}
    (hcs : ∀ c ∈ cs, c.Addressable) {m : Match} (hm : m ∈ cs.flatMap (matchesOf config)) :
    m.ArisesUnder config := by
  obtain ⟨c, hc, hmem⟩ := List.mem_flatMap.mp hm
  obtain ⟨rfl, hengine, -⟩ := mem_matchesOf.mp hmem
  exact ⟨hengine, hcs _ hc⟩

/-- **A run preserves where the entries of its cache come from**, however it ends. -/
theorem cacheStems_run {config : Configuration} (ha : allowed config) {h : H}
    (hoffered : ∀ c ∈ offered h, c.Addressable) {cache : Option UnitCache}
    (hc : CacheStems allowed cache) : CacheStems allowed ((fresh config cache).run h).pass.cache := by
  rcases hd : declareMarkers Engine.all h with ⟨_ | _, h'⟩
  · rw [run_fresh_of_error config cache hd]
    exact hc
  · rw [run_fresh_of_ok config cache hd]
    show CacheStems allowed ((gathered config cache (offered h)).finish h').pass.cache
    rw [finish_eq (finish_allowedIn_gathered ..)]
    have hall : CacheStems allowed
        (((gathered config cache (offered h)).emission h').emitAll config
          (gathered config cache (offered h)).found).2.cache := by
      refine Emission.cache_emitAll (P := CacheStems allowed) (fun m hm c hstems => ?_) hc
      rw [found_gathered] at hm
      exact Match.cacheStems_produce ha (arisesUnder_of_mem hoffered hm) hstems
    show CacheStems allowed (Pass.conclude _ (Emission.emitAll config _ _)).pass.cache
    rcases hemit : ((gathered config cache (offered h)).emission h').emitAll config
        (gathered config cache (offered h)).found with ⟨_ | _, s⟩
    · rw [hemit] at hall
      exact hall
    · rw [hemit] at hall
      show CacheStems allowed s.sweep.cache
      rw [Emission.cache_sweep]
      intro c hcache
      obtain ⟨old, hold, rfl⟩ := Option.map_eq_some_iff.mp hcache
      exact (hall old hold).sweep

end Pass

end DataContract
