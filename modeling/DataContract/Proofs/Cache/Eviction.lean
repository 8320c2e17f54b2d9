import DataContract.Proofs.Cache.Confusion

/-!
# What is evicted from a shared cache

A pass that ends well sweeps its cache: it evicts the entries without a mark and removes the marks of
the others.  A pass that the host cuts short does not come to that, so the marks that it has set stay
behind, and the next sweep takes them for marks of its own pass.

* `Emission.used` are the keys under which a pass has obtained units, from the cache or by generating
  them.  Emission marks exactly these (`mem_marked_emitAll`), and sweeping keeps exactly what is
  marked (`UnitCache.keys_sweep`).
* `SharedCache.unswept` are the keys that have been used since a pass last ended well.  They are what
  is still marked between two passes (`SharedCache.tracked_after`).

So the cache behind a pass that has ended well holds what that pass has used and what the passes that
were cut short right before it have used, and nothing else.  It holds only what the pass itself has
used exactly if that includes what they have left behind (`SharedCache.keys_iff_used`).
-/

namespace DataContract

open Declaration

namespace UnitCache

/-- The keys of the entries. -/
def keys (cache : UnitCache) : List CacheKey := cache.entries.map (·.key)

/-- The keys of the entries with a mark. -/
def marked (cache : UnitCache) : List CacheKey := (cache.entries.filter (·.touched)).map (·.key)

/-! ## Marks -/

/-- Sweeping keeps what is marked. -/
@[simp] theorem keys_sweep (cache : UnitCache) : cache.sweep.keys = cache.marked := by
  rw [keys, marked, sweep, List.map_map]
  rfl

/-- Sweeping leaves no mark. -/
@[simp] theorem marked_sweep (cache : UnitCache) : cache.sweep.marked = [] := by
  rw [marked, sweep, List.map_eq_nil_iff, List.filter_eq_nil_iff]
  intro entry hentry
  obtain ⟨old, -, rfl⟩ := List.mem_map.mp hentry
  exact Bool.false_ne_true

/-- Looking up a key marks its entry, if there is one. -/
theorem mem_marked_touch {cache : UnitCache} {key k : CacheKey} :
    k ∈ (cache.touch key).marked ↔ k ∈ cache.marked ∨ (k = key ∧ key ∈ cache.keys) := by
  simp only [marked, keys, touch, List.mem_map, List.mem_filter]
  constructor
  · rintro ⟨entry, ⟨⟨old, hold, rfl⟩, htouched⟩, rfl⟩
    split
    · rename_i hkey
      exact Or.inr ⟨eq_of_beq hkey, old, hold, eq_of_beq hkey⟩
    · rename_i hkey
      rw [if_neg hkey] at htouched
      exact Or.inl ⟨old, ⟨hold, htouched⟩, rfl⟩
  · rintro (⟨entry, ⟨hentry, htouched⟩, rfl⟩ | ⟨rfl, entry, hentry, rfl⟩)
    · refine ⟨_, ⟨⟨entry, hentry, rfl⟩, ?_⟩, ?_⟩ <;> split <;> first | rfl | exact htouched
    · refine ⟨_, ⟨⟨entry, hentry, rfl⟩, ?_⟩, ?_⟩ <;> simp

/-- Inserting a unit marks its key. -/
theorem mem_marked_insert {cache : UnitCache} {key k : CacheKey} {generated : Generated} :
    k ∈ (cache.insert key generated).marked ↔ k = key ∨ k ∈ cache.marked := by
  simp only [marked, insert, List.filter_cons, if_true, List.map_cons, List.mem_cons,
    List.mem_map, List.mem_filter]
  constructor
  · rintro (rfl | ⟨entry, ⟨⟨hentry, -⟩, htouched⟩, rfl⟩)
    · exact Or.inl rfl
    · exact Or.inr ⟨entry, ⟨hentry, htouched⟩, rfl⟩
  · rintro (rfl | ⟨entry, ⟨hentry, htouched⟩, rfl⟩)
    · exact Or.inl rfl
    · by_cases hkey : entry.key = key
      · exact Or.inl hkey
      · exact Or.inr ⟨entry, ⟨⟨hentry, by simpa using hkey⟩, htouched⟩, rfl⟩

/-- A unit is found under a key exactly if there is an entry. -/
theorem isSome_get? (cache : UnitCache) (key : CacheKey) :
    (cache.get? key).1.isSome = true ↔ key ∈ cache.keys := by
  simp [get?, find?, keys]

end UnitCache

/-! ## Emission -/

/-- **Production marks the key of its match exactly if it obtains a unit.** -/
theorem Match.mem_marked_produce (m : Match) (config : Configuration) (cache : UnitCache) :
    ∃ behind, (m.produce config (some cache)).cache = some behind ∧ ∀ key, key ∈ behind.marked ↔
      key ∈ cache.marked ∨ ((m.produce config (some cache)).result.isOk ∧ key = m.key config) := by
  rw [produce]
  rcases m.produceCached_eq config cache with
    ⟨generated, hget, heq⟩ | ⟨hget, log, ⟨generated, -, heq⟩ | ⟨error, -, heq⟩⟩
  · have hheld : m.key config ∈ cache.keys := by
      rw [← UnitCache.isSome_get?, hget]
      rfl
    refine ⟨_, congrArg Production.cache heq, fun key => ?_⟩
    rw [heq, UnitCache.mem_marked_touch]
    simp [hheld, Except.isOk, Except.toBool]
  · refine ⟨_, congrArg Production.cache heq, fun key => ?_⟩
    rw [heq, UnitCache.mem_marked_insert, UnitCache.mem_marked_touch]
    simp only [Except.isOk, Except.toBool, true_and]
    tauto
  · have hmissing : m.key config ∉ cache.keys := by
      rw [← UnitCache.isSome_get?, hget]
      exact Bool.false_ne_true
    refine ⟨_, congrArg Production.cache heq, fun key => ?_⟩
    rw [heq, UnitCache.mem_marked_touch]
    simp [hmissing, Except.isOk, Except.toBool]

namespace Emission

variable {H : Type} [Host H]

/-- The keys of the matches for which emission obtains a unit, up to the one that the host refuses
and including it. -/
def used (config : Configuration) : List Match → Emission H → List CacheKey
  | [], _ => []
  | m :: rest, s =>
    let keys := if (m.produce config s.cache).result.isOk then [m.key config] else []
    match s.emit config m with
    | (.ok _, s) => keys ++ used config rest s
    | (.error _, _) => keys

/-- **Emission marks what it uses.** -/
theorem mem_marked_emitAll (config : Configuration) (ms : List Match) {s : Emission H}
    {cache : UnitCache} (hs : s.cache = some cache) :
    ∃ behind, (emitAll config ms s).2.cache = some behind ∧
      ∀ key, key ∈ behind.marked ↔ key ∈ cache.marked ∨ key ∈ used config ms s := by
  induction ms generalizing s cache with
  | nil => exact ⟨cache, hs, fun key => by simp [used]⟩
  | cons m ms ih =>
    obtain ⟨next, hnext, hmarked⟩ := m.mem_marked_produce config cache
    have hemitted : (s.emit config m).2.cache = some next := by rw [cache_emit, hs, hnext]
    rw [emitAll, used, hs]
    rcases hemit : s.emit config m with ⟨error | _, s'⟩
    · rw [hemit] at hemitted
      refine ⟨next, hemitted, fun key => ?_⟩
      rw [hmarked]
      split <;> simp_all
    · rw [hemit] at hemitted
      obtain ⟨behind, hbehind, hrest⟩ := ih hemitted
      refine ⟨behind, hbehind, fun key => ?_⟩
      rw [hrest, hmarked]
      split <;> simp_all [or_assoc]

end Emission

/-! ## Runs -/

namespace Pass

variable {H : Type} [Host H]

/-- The keys that a run with a cache uses.  If the host refuses a declaration, there are none. -/
def used (config : Configuration) (cache : UnitCache) (h : H) : List CacheKey :=
  match declareMarkers Engine.all h with
  | (.ok _, h') =>
    ((gathered config (some cache) (offered h)).emission h').used config
      ((offered h).flatMap (matchesOf config))
  | (.error _, _) => []

/-- The cache that a run leaves behind. -/
def cacheAfter (config : Configuration) (cache : UnitCache) (h : H) : UnitCache :=
  ((fresh config (some cache)).run h).pass.cache.getD cache

/-- **What a run does to the marks.**  It sets those of the keys that it uses, and then sweeps the
cache if it ends well. -/
theorem run_cases (config : Configuration) (cache : UnitCache) (h : H) :
    ∃ behind : UnitCache,
      (∀ key, key ∈ behind.marked ↔ key ∈ cache.marked ∨ key ∈ used config cache h) ∧
      ((∃ report, ((fresh config (some cache)).run h).result = .ok report ∧
          cacheAfter config cache h = behind.sweep) ∨
        ∃ error, ((fresh config (some cache)).run h).result = .error error ∧
          cacheAfter config cache h = behind) := by
  rw [cacheAfter, used]
  rcases hd : declareMarkers Engine.all h with ⟨refusal | _, h'⟩
  · rw [run_fresh_of_error config (some cache) hd]
    exact ⟨cache, fun key => by simp, Or.inr ⟨_, rfl, rfl⟩⟩
  · have hcache : ((gathered config (some cache) (offered h)).emission h').cache = some cache := rfl
    obtain ⟨behind, hbehind, hmarked⟩ :=
      Emission.mem_marked_emitAll config ((offered h).flatMap (matchesOf config)) hcache
    refine ⟨behind, hmarked, ?_⟩
    rw [run_fresh_of_ok config (some cache) hd, finish_eq (finish_allowedIn_gathered ..),
      found_gathered]
    show (∃ report, (conclude _ (Emission.emitAll config _ _)).result = _ ∧
        (conclude _ (Emission.emitAll config _ _)).pass.cache.getD cache = _) ∨
      ∃ error, (conclude _ (Emission.emitAll config _ _)).result = _ ∧
        (conclude _ (Emission.emitAll config _ _)).pass.cache.getD cache = _
    rcases hemit : ((gathered config (some cache) (offered h)).emission h').emitAll config
      ((offered h).flatMap (matchesOf config)) with ⟨refusal | _, s⟩
    · rw [hemit] at hbehind
      exact Or.inr ⟨_, rfl, by rw [conclude, reset, fresh, hbehind, Option.getD_some]⟩
    · rw [hemit] at hbehind
      refine Or.inl ⟨_, rfl, ?_⟩
      rw [conclude, reset, fresh, Emission.cache_sweep, hbehind, Option.map_some, Option.getD_some]

end Pass

/-! ## Passes that share a cache -/

/-- A cache between two of the passes that share it, and the keys that they have used since one of
them last ended well. -/
structure SharedCache where
  cache : UnitCache
  unswept : List CacheKey

namespace SharedCache

variable {H : Type} [Host H]

/-- A cache before the first pass. -/
def unused : SharedCache := ⟨.empty, []⟩

/-- A cache when one more pass has had it. -/
def next (s : SharedCache) (config : Configuration) (h : H) : SharedCache where
  cache := Pass.cacheAfter config s.cache h
  unswept :=
    match ((Pass.fresh config (some s.cache)).run h).result with
    | .ok _ => []
    | .error _ => s.unswept ++ Pass.used config s.cache h

/-- A cache when passes have had it one after the other. -/
def after (passes : List (Configuration × H)) : SharedCache :=
  passes.foldl (fun s (config, h) => s.next config h) unused

/-- What is marked is what has been used since a pass last ended well. -/
def Tracked (s : SharedCache) : Prop := ∀ key, key ∈ s.cache.marked ↔ key ∈ s.unswept

theorem tracked_unused : unused.Tracked := fun _ => Iff.rfl

/-- A pass keeps track of the marks, however it ends. -/
theorem Tracked.next {s : SharedCache} (hs : s.Tracked) (config : Configuration) (h : H) :
    (s.next config h).Tracked := by
  intro key
  obtain ⟨behind, hmarked, ⟨report, hresult, hafter⟩ | ⟨error, hresult, hafter⟩⟩ :=
    Pass.run_cases config s.cache h
  · rw [SharedCache.next, hafter, hresult, UnitCache.marked_sweep]
  · rw [SharedCache.next, hafter, hresult, hmarked, hs, List.mem_append]

/-- **Between two passes the marks are those of the passes that were cut short.** -/
theorem tracked_after (passes : List (Configuration × H)) : (after passes).Tracked :=
  List.foldlRecOn passes _ tracked_unused fun _ hs x _ => hs.next x.1 x.2

/-- A pass that ends well leaves what it has used, and what was marked before. -/
theorem mem_keys_cacheAfter {s : SharedCache} (hs : s.Tracked) {config : Configuration} {h : H}
    {report : Report} (hended : ((Pass.fresh config (some s.cache)).run h).result = .ok report)
    (key : CacheKey) : key ∈ (Pass.cacheAfter config s.cache h).keys ↔
      key ∈ s.unswept ∨ key ∈ Pass.used config s.cache h := by
  obtain ⟨behind, hmarked, ⟨_, -, hafter⟩ | ⟨error, hresult, -⟩⟩ := Pass.run_cases config s.cache h
  · rw [hafter, UnitCache.keys_sweep, hmarked, hs]
  · rw [hended] at hresult
    cases hresult

/-- **What a cache holds behind a pass that has ended well**, after any passes that have shared it.
It holds the keys that this pass has used or that were used since a pass last ended well; and only
those that this pass has used exactly if the others are among them. -/
theorem keys_iff_used (passes : List (Configuration × H)) (config : Configuration) (h : H)
    {report : Report}
    (hended : ((Pass.fresh config (some (after passes).cache)).run h).result = .ok report) :
    (∀ key, key ∈ (after (passes ++ [(config, h)])).cache.keys ↔
        key ∈ (after passes).unswept ∨ key ∈ Pass.used config (after passes).cache h) ∧
      ((∀ key ∈ (after (passes ++ [(config, h)])).cache.keys,
          key ∈ Pass.used config (after passes).cache h) ↔
        ∀ key ∈ (after passes).unswept, key ∈ Pass.used config (after passes).cache h) := by
  have hheld : ∀ key, key ∈ (after (passes ++ [(config, h)])).cache.keys ↔
      key ∈ (after passes).unswept ∨ key ∈ Pass.used config (after passes).cache h := by
    intro key
    rw [← mem_keys_cacheAfter (tracked_after passes) hended, after, List.foldl_append]
    rfl
  refine ⟨hheld, fun honly key hkey => ?_, fun hunswept key hkey => ?_⟩
  · exact honly key ((hheld key).mpr (Or.inl hkey))
  · rcases (hheld key).mp hkey with hleft | hused
    · exact hunswept key hleft
    · exact hused

/-! ## A unit that is refused -/

/-- A host that offers one type and refuses its unit. -/
def refusing : SelectiveHost := .ofCandidates [plain .json []] none (some 0)

/-- A host that offers nothing. -/
def barren : SelectiveHost := .ofCandidates [] none none

/-- The refused unit is in the cache, and its entry has been used. -/
theorem unswept_refusing : (after [(.standard, refusing)]).unswept =
    [Match.key ⟨plain .json [], .json⟩ .standard] := rfl

/-- The pass behind it ends well. -/
theorem result_barren :
    ((Pass.fresh .standard (some (after [(.standard, refusing)]).cache)).run barren).result =
      .ok ⟨0, 0, [], 0, 0, []⟩ := rfl

/-- The entry of a refused unit is still held behind a pass over a host that offers nothing. -/
theorem keys_iff_used_refusing :
    ((Pass.fresh .standard (some (after [(.standard, refusing)]).cache)).run barren).result =
        .ok ⟨0, 0, [], 0, 0, []⟩ ∧
      Match.key ⟨plain .json [], .json⟩ .standard ∈
        (after [(.standard, refusing), (.standard, barren)]).cache.keys := by
  refine ⟨result_barren, ((keys_iff_used _ _ _ result_barren).1 _).mpr (Or.inl ?_)⟩
  rw [unswept_refusing]
  exact List.mem_singleton_self _

/-- The entry of a refused unit outlives a pass that ends well and does not use it. -/
theorem not_only_used_of_refusing :
    ¬∀ (passes : List (Configuration × SelectiveHost)) (config : Configuration) (h : SelectiveHost)
      (report : Report),
      ((Pass.fresh config (some (after passes).cache)).run h).result = .ok report →
        ∀ key ∈ (Pass.cacheAfter config (after passes).cache h).keys,
          key ∈ Pass.used config (after passes).cache h := by
  intro honly
  have hnone : Pass.used .standard (after [(.standard, refusing)]).cache barren = [] := rfl
  have hheld : Match.key ⟨plain .json [], .json⟩ .standard ∈
      (Pass.cacheAfter .standard (after [(.standard, refusing)]).cache barren).keys := by
    rw [mem_keys_cacheAfter (tracked_after _) result_barren, unswept_refusing]
    exact Or.inl (List.mem_singleton_self _)
  have hused := honly _ _ _ _ result_barren _ hheld
  rw [hnone] at hused
  exact List.not_mem_nil hused

end SharedCache

end DataContract
