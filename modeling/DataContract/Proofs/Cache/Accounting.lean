import DataContract.Proofs.Cache.Eviction
import DataContract.Proofs.Pass.Reference
import Mathlib.Data.List.Dedup
import Mathlib.Data.List.Infix

/-!
# The accounts of a cache

Several passes under one configuration share a cache that was empty to begin with, and all of them
end well.  Then everything that a report says about the cache can be computed from the candidates:
which matches find their unit in it, how many entries are evicted, and what is left.

* `UnitCache.Carried` are the caches that come about in this way.
* `Accounted` are the accounts of one more pass over such a cache.  They only speak of the keys that
  were held before, and of the matches of this pass in their order.
* `UnitCache.Extends` says how a cache grows in the course of emission: by the keys of the matches
  that have a unit (`yielded`), which are marked, and by nothing else.
* `Carried.accounted` --- the accounts hold.

A match whose key is held has a unit, and it is the one that is held.  This is because under one
configuration nothing can be confused (`CacheKey.not_confusable_self`), so equal keys mean equal
units.
-/

namespace DataContract

open Declaration

/-! ## Keys -/

/-- No configuration can be confused with itself. -/
theorem CacheKey.not_confusable_self (config : Configuration) : ¬Confusable config config := by
  intro h
  obtain ⟨ms, hne, -, hbytes⟩ := h.surplus
  have hnil : ms.flatMap ofMember = [] := List.self_eq_append_left.mp hbytes
  obtain ⟨m, ms, rfl⟩ := List.exists_cons_of_ne_nil hne
  have hpos : 0 < (ofMember m).length := by
    cases m <;> simp [ofMember]
  rw [List.flatMap_eq_nil_iff.mp hnil m (List.mem_cons_self ..)] at hpos
  exact Nat.lt_irrefl _ hpos

namespace UnitCache

/-- A mark changes no key. -/
@[simp] theorem keys_touch (cache : UnitCache) (key : CacheKey) :
    (cache.touch key).keys = cache.keys := by
  rw [keys, keys, touch, List.map_map]
  refine List.map_congr_left fun entry _ => ?_
  rw [Function.comp]
  split <;> rfl

/-- A unit is inserted under its key, and under no other. -/
theorem keys_insert (cache : UnitCache) (key : CacheKey) (generated : Generated) :
    (cache.insert key generated).keys = key :: cache.keys.filter (· != key) := by
  rw [keys, keys, insert, List.map_cons, List.filter_map]
  rfl

/-- What is marked is held. -/
theorem marked_sublist_keys (cache : UnitCache) : cache.marked.Sublist cache.keys :=
  List.Sublist.map _ List.filter_sublist

/-- Nothing is found under a key exactly if there is no entry. -/
theorem get?_eq_none_iff (cache : UnitCache) (key : CacheKey) :
    (cache.get? key).1 = none ↔ key ∉ cache.keys := by
  rw [← isSome_get?, Bool.not_eq_true, Option.isSome_eq_false_iff, Option.isNone_iff_eq_none]

/-! ## How a cache grows -/

/-- A cache that holds some more keys than another, all of which are marked. -/
structure Extends (cache behind : UnitCache) (more : List CacheKey) : Prop where
  keys : ∀ key, key ∈ behind.keys ↔ key ∈ cache.keys ∨ key ∈ more
  marked : ∀ key, key ∈ behind.marked ↔ key ∈ cache.marked ∨ key ∈ more
  nodup : cache.keys.Nodup → behind.keys.Nodup

theorem Extends.refl (cache : UnitCache) : cache.Extends cache [] :=
  ⟨fun key => by simp, fun key => by simp, id⟩

theorem Extends.trans {cache between behind : UnitCache} {more rest : List CacheKey}
    (h : cache.Extends between more) (h' : between.Extends behind rest) :
    cache.Extends behind (more ++ rest) where
  keys key := by rw [h'.keys, h.keys, List.mem_append, or_assoc]
  marked key := by rw [h'.marked, h.marked, List.mem_append, or_assoc]
  nodup hnodup := h'.nodup (h.nodup hnodup)

/-- Looking up a key that is held marks it. -/
theorem extends_touch_of_mem {cache : UnitCache} {key : CacheKey} (hkey : key ∈ cache.keys) :
    cache.Extends (cache.touch key) [key] where
  keys k := by
    rw [keys_touch, List.mem_singleton, iff_self_or]
    rintro rfl
    exact hkey
  marked k := by rw [mem_marked_touch, List.mem_singleton, and_iff_left hkey]
  nodup hnodup := by rwa [keys_touch]

/-- Looking up a key that is not held changes nothing. -/
theorem extends_touch_of_notMem {cache : UnitCache} {key : CacheKey} (hkey : key ∉ cache.keys) :
    cache.Extends (cache.touch key) [] where
  keys k := by rw [keys_touch, List.mem_nil_iff, or_false]
  marked k := by simp [mem_marked_touch, hkey]
  nodup hnodup := by rwa [keys_touch]

/-- Inserting a unit adds its key, unless it is held already. -/
theorem extends_insert (cache : UnitCache) (key : CacheKey) (generated : Generated) :
    cache.Extends (cache.insert key generated) [key] where
  keys k := by
    rw [keys_insert, List.mem_cons, List.mem_filter, List.mem_singleton, bne_iff_ne]
    tauto
  marked k := by rw [mem_marked_insert, List.mem_singleton, or_comm]
  nodup hnodup := by
    rw [keys_insert, List.nodup_cons]
    exact ⟨fun hmem => bne_iff_ne.mp (List.mem_filter.mp hmem).2 rfl, hnodup.filter _⟩

end UnitCache

/-! ## The accounts of a pass -/

/-- The keys of the matches that have a unit, in their order. -/
def yielded (config : Configuration) (ms : List Match) : List CacheKey :=
  (ms.filter fun m => (m.unit? config).isSome).map (·.key config)

/-- The number of matches whose key is among given ones, or is that of an earlier match that has a
unit. -/
def expectedHits (config : Configuration) (held : List CacheKey) (ms : List Match) : Nat :=
  (ms.zip ms.inits).countP fun (m, earlier) =>
    m.key config ∈ held ∨ m.key config ∈ yielded config earlier

/-- The accounts of a pass that has come upon matches with a cache that held keys, and has left a
cache behind.  -/
structure Accounted (config : Configuration) (held : List CacheKey) (ms : List Match)
    (behind : UnitCache) (report : Report) : Prop where
  /-- For every key of a match that has a unit there is one entry, and there is no other. -/
  kept : behind.keys.Perm (yielded config ms).dedup
  /-- A unit comes from the cache if its key was held, or if it has been made earlier in this
  pass. -/
  hits : report.cacheHits = expectedHits config held ms
  /-- The keys that were held are evicted unless some match has them. -/
  evicted : report.evicted = held.countP (· ∉ ms.map (·.key config))

theorem yielded_cons (config : Configuration) (m : Match) (ms : List Match) :
    yielded config (m :: ms) = yielded config [m] ++ yielded config ms := by
  rw [← List.singleton_append, yielded, List.filter_append, List.map_append, yielded, yielded]

theorem yielded_singleton (config : Configuration) (m : Match) :
    yielded config [m] = if (m.unit? config).isSome then [m.key config] else [] := by
  rw [yielded, List.filter_singleton]
  cases (m.unit? config).isSome <;> rfl

/-- The first of the matches only finds a unit that was held, and those behind it may also find its
own. -/
theorem expectedHits_cons (config : Configuration) (held : List CacheKey) (m : Match)
    (ms : List Match) :
    expectedHits config held (m :: ms) =
      (if m.key config ∈ held then 1 else 0) +
        expectedHits config (held ++ yielded config [m]) ms := by
  have hrest : (fun x : Match × List Match => decide (x.1.key config ∈ held ∨
      x.1.key config ∈ yielded config x.2)) ∘ Prod.map id (List.cons m) =
      fun x => decide (x.1.key config ∈ held ++ yielded config [m] ∨
        x.1.key config ∈ yielded config x.2) := by
    funext x
    simp only [Function.comp, Prod.map, id, yielded_cons config m x.2, List.mem_append, or_assoc]
  rw [expectedHits, List.inits_cons, List.zip_cons_cons, List.zip_map_right, List.countP_cons,
    List.countP_map, hrest, Nat.add_comm, expectedHits]
  simp [yielded]

/-- Which keys were held matters, but not in which order. -/
theorem expectedHits_congr {config : Configuration} {held held' : List CacheKey}
    (h : ∀ key, key ∈ held ↔ key ∈ held') (ms : List Match) :
    expectedHits config held ms = expectedHits config held' ms := by
  simp only [expectedHits, h]

/-! ## Emission -/

namespace Match

variable {config : Configuration}

/-- Under one configuration a cache produces what is generated. -/
theorem produce_result_of_stemsFrom {m : Match} (hm : m.ArisesUnder config) {cache : UnitCache}
    (hc : cache.StemsFrom (· = config)) :
    (m.produce config (some cache)).result = generate m.candidate m.engine config := by
  have hconfusable : ∀ a b, a = config → b = config → ¬CacheKey.Confusable a b := by
    rintro a b rfl rfl
    exact CacheKey.not_confusable_self _
  exact produce_result (by rfl) hm hconfusable (cacheStems_some.mpr hc)

/-- A match has a unit exactly if it is generated. -/
theorem isSome_unit? (m : Match) :
    (m.unit? config).isSome = (generate m.candidate m.engine config).isOk := by
  rw [unit?]
  cases generate m.candidate m.engine config <;> rfl

/-- A match is a hit exactly if its key is held. -/
theorem hit_produce (m : Match) (cache : UnitCache) :
    (m.produce config (some cache)).hit = true ↔ m.key config ∈ cache.keys := by
  rw [produce, ← UnitCache.isSome_get?]
  rcases m.produceCached_eq config cache with
    ⟨generated, hget, heq⟩ | ⟨hget, log, ⟨generated, -, heq⟩ | ⟨error, -, heq⟩⟩ <;>
  simp [heq, hget]

/-- A match whose key is held has a unit. -/
theorem isSome_unit?_of_mem_keys {m : Match} (hm : m.ArisesUnder config) {cache : UnitCache}
    (hc : cache.StemsFrom (· = config)) (hkey : m.key config ∈ cache.keys) :
    (m.unit? config).isSome = true := by
  have hresult := produce_result_of_stemsFrom hm hc
  rw [produce] at hresult
  rw [isSome_unit?, ← hresult]
  rcases m.produceCached_eq config cache with ⟨generated, -, heq⟩ | ⟨hget, -⟩
  · rw [heq]
    rfl
  · exact absurd hkey ((cache.get?_eq_none_iff _).mp hget)

/-- **Production extends the cache by the key of a match that has a unit.** -/
theorem extends_produce {m : Match} (hm : m.ArisesUnder config) {cache : UnitCache}
    (hc : cache.StemsFrom (· = config)) :
    ∃ behind, (m.produce config (some cache)).cache = some behind ∧
      behind.StemsFrom (· = config) ∧ cache.Extends behind (yielded config [m]) := by
  have hstems : CacheStems (· = config) (m.produce config (some cache)).cache :=
    cacheStems_produce (by rfl) hm (cacheStems_some.mpr hc)
  have hresult := produce_result_of_stemsFrom hm hc
  rw [produce] at hstems hresult ⊢
  rcases m.produceCached_eq config cache with
    ⟨generated, hget, heq⟩ | ⟨hget, log, ⟨generated, -, heq⟩ | ⟨error, -, heq⟩⟩
  all_goals rw [heq] at hstems hresult ⊢
  all_goals refine ⟨_, rfl, cacheStems_some.mp hstems, ?_⟩
  all_goals rw [yielded_singleton, isSome_unit?, ← hresult]
  · have hkey : m.key config ∈ cache.keys := by
      rw [← UnitCache.isSome_get?, hget]
      rfl
    exact UnitCache.extends_touch_of_mem hkey
  · have hkey := (cache.get?_eq_none_iff _).mp hget
    exact (UnitCache.extends_touch_of_notMem hkey).trans (UnitCache.extends_insert _ _ _)
  · have hkey := (cache.get?_eq_none_iff _).mp hget
    exact UnitCache.extends_touch_of_notMem hkey

end Match

namespace Emission

variable {H : Type} [Host H] {config : Configuration}

theorem cacheHits_diagnoseAll (s : Emission H) (ds : Diagnostics) :
    (s.diagnoseAll ds).report.cacheHits = s.report.cacheHits := by
  rw [(delivered_diagnoseAll s ds).report]
  rfl

/-- Delivery counts no hit. -/
theorem cacheHits_deliver (s : Emission H) (m : Match) (made : Except GenerationError Generated) :
    (s.deliver m made).2.report.cacheHits = s.report.cacheHits := by
  cases made with
  | error error => rfl
  | ok generated =>
    rw [deliver, submit]
    rcases Host.submit generated.unit (s.diagnoseAll generated.warnings).host with ⟨_ | _, h⟩
    all_goals exact cacheHits_diagnoseAll s generated.warnings

/-- **What emission does to a cache**, if the host takes every unit.  It extends the cache by the
keys of the matches that have a unit, and counts the hits as expected. -/
theorem accounts_emitAll {ms : List Match} (hms : ∀ m ∈ ms, m.ArisesUnder config)
    {s s' : Emission H} {cache : UnitCache} (hs : s.cache = some cache)
    (hc : cache.StemsFrom (· = config)) (hemitted : emitAll config ms s = (.ok (), s')) :
    ∃ behind, s'.cache = some behind ∧ behind.StemsFrom (· = config) ∧
      cache.Extends behind (yielded config ms) ∧
      s'.report.cacheHits = s.report.cacheHits + expectedHits config cache.keys ms := by
  induction ms generalizing s cache with
  | nil =>
    obtain ⟨-, rfl⟩ := Prod.mk.inj hemitted
    exact ⟨cache, hs, hc, .refl cache, rfl⟩
  | cons m ms ih =>
    have hm := hms m (List.mem_cons_self ..)
    obtain ⟨next, hnext, hstems, hextends⟩ := Match.extends_produce hm hc
    have hcache : (s.emit config m).2.cache = some next := by rw [cache_emit, hs, hnext]
    have hhits : (s.emit config m).2.report.cacheHits =
        s.report.cacheHits + if m.key config ∈ cache.keys then 1 else 0 := by
      rw [emit, cacheHits_deliver, record, hs]
      simp only [Match.hit_produce]
    rw [emitAll] at hemitted
    rcases hemit : s.emit config m with ⟨refusal | _, between⟩
    · rw [hemit] at hemitted
      cases hemitted
    · rw [hemit] at hemitted hcache hhits
      obtain ⟨behind, hbehind, hstems', hrest, hrestHits⟩ :=
        ih (fun m hm => hms m (List.mem_cons_of_mem _ hm)) hcache hstems hemitted
      refine ⟨behind, hbehind, hstems', ?_, ?_⟩
      · rw [yielded_cons]
        exact hextends.trans hrest
      · have hheld : ∀ key, key ∈ next.keys ↔ key ∈ cache.keys ++ yielded config [m] := by
          intro key
          rw [hextends.keys, List.mem_append]
        rw [hrestHits, hhits, expectedHits_cons, expectedHits_congr hheld, Nat.add_assoc]

end Emission

/-! ## Sweeping -/

namespace UnitCache

/-- A cache as it is between two passes: no key is there twice, and no entry is marked. -/
structure Settled (config : Configuration) (cache : UnitCache) : Prop where
  stems : cache.StemsFrom (· = config)
  nodup : cache.keys.Nodup
  unmarked : cache.marked = []

theorem settled_empty (config : Configuration) : empty.Settled config :=
  ⟨stemsFrom_empty, List.nodup_nil, rfl⟩

variable {config : Configuration} {cache behind : UnitCache} {ms : List Match}

/-- What is marked behind a pass is what its matches have yielded. -/
theorem Settled.marked_perm (hc : cache.Settled config)
    (h : cache.Extends behind (yielded config ms)) :
    behind.marked.Perm (yielded config ms).dedup := by
  have hnodup : behind.marked.Nodup := behind.marked_sublist_keys.nodup (h.nodup hc.nodup)
  rw [List.perm_ext_iff_of_nodup hnodup (List.nodup_dedup _)]
  intro key
  rw [h.marked, hc.unmarked, List.mem_dedup, List.mem_nil_iff, false_or]

/-- The keys behind a pass are those that its matches have yielded, and those that were held and
that they have not yielded. -/
theorem Settled.keys_perm (hc : cache.Settled config)
    (h : cache.Extends behind (yielded config ms)) :
    behind.keys.Perm (behind.marked ++ cache.keys.filter (· ∉ yielded config ms)) := by
  have hmarked : ∀ key, key ∈ behind.marked ↔ key ∈ yielded config ms := by
    intro key
    rw [h.marked, hc.unmarked, List.mem_nil_iff, false_or]
  have hdisjoint : behind.marked.Disjoint (cache.keys.filter (· ∉ yielded config ms)) := by
    intro key hkey hleft
    exact of_decide_eq_true (List.mem_filter.mp hleft).2 ((hmarked key).mp hkey)
  rw [List.perm_ext_iff_of_nodup (h.nodup hc.nodup) (List.nodup_append'.mpr
    ⟨behind.marked_sublist_keys.nodup (h.nodup hc.nodup), hc.nodup.filter _, hdisjoint⟩)]
  intro key
  rw [h.keys, List.mem_append, hmarked, List.mem_filter, decide_eq_true_iff]
  tauto

/-- A key that is held is yielded by the matches that have it. -/
theorem Settled.mem_yielded_iff (hc : cache.Settled config)
    (hms : ∀ m ∈ ms, m.ArisesUnder config) {key : CacheKey} (hkey : key ∈ cache.keys) :
    key ∈ yielded config ms ↔ key ∈ ms.map (·.key config) := by
  rw [yielded, List.mem_map, List.mem_map]
  constructor
  · rintro ⟨m, hm, rfl⟩
    exact ⟨m, (List.mem_filter.mp hm).1, rfl⟩
  · rintro ⟨m, hm, rfl⟩
    have hunit := Match.isSome_unit?_of_mem_keys (hms m hm) hc.stems hkey
    exact ⟨m, List.mem_filter.mpr ⟨hm, hunit⟩, rfl⟩

/-- **Sweeping evicts the keys that were held and that no match has.** -/
theorem Settled.stale_eq (hc : cache.Settled config) (hms : ∀ m ∈ ms, m.ArisesUnder config)
    (h : cache.Extends behind (yielded config ms)) :
    behind.stale = cache.keys.countP (· ∉ ms.map (·.key config)) := by
  have hsize : ∀ c : UnitCache, c.size = c.keys.length := fun c => (List.length_map _).symm
  have hunused : cache.keys.filter (· ∉ yielded config ms) =
      cache.keys.filter (· ∉ ms.map (·.key config)) :=
    List.filter_congr fun _ hkey => decide_eq_decide.mpr (not_congr (hc.mem_yielded_iff hms hkey))
  rw [stale, hsize, hsize, keys_sweep, (hc.keys_perm h).length_eq, List.length_append, hunused,
    Nat.add_sub_cancel_left, List.countP_eq_length_filter]

end UnitCache

/-! ## Passes -/

namespace UnitCache

/-- The caches that passes under a configuration have shared, one after the other, if all of them
have ended well.  The hosts may be of any kind, and offer what they like to each pass. -/
inductive Carried (config : Configuration) : UnitCache → Prop
  | empty : Carried config .empty
  | pass {cache : UnitCache} (hc : Carried config cache) {H : Type} [Host H] {h : H}
      (hoffered : ∀ c ∈ Pass.offered h, c.Addressable) {report : Report}
      (hended : ((Pass.fresh config (some cache)).run h).result = .ok report) :
      Carried config (Pass.cacheAfter config cache h)

variable {config : Configuration} {cache : UnitCache} {H : Type} [Host H] {h : H} {report : Report}

omit [Host H] in
/-- The matches of a pass over addressable candidates can come up. -/
theorem arisesUnder_pairs {cs : List Candidate} (hcs : ∀ c ∈ cs, c.Addressable) :
    ∀ m ∈ pairs config cs, m.ArisesUnder config := by
  intro m hm
  rw [← flatMap_matchesOf] at hm
  exact Pass.arisesUnder_of_mem hcs hm

/-- A pass that ends well has swept a cache that its matches have extended. -/
theorem Settled.run_cases (hc : cache.Settled config)
    (hoffered : ∀ c ∈ Pass.offered h, c.Addressable)
    (hended : ((Pass.fresh config (some cache)).run h).result = .ok report) :
    ∃ behind : UnitCache, behind.StemsFrom (· = config) ∧
      cache.Extends behind (yielded config (pairs config (Pass.offered h))) ∧
      Pass.cacheAfter config cache h = behind.sweep ∧ report.evicted = behind.stale ∧
      report.cacheHits = expectedHits config cache.keys (pairs config (Pass.offered h)) := by
  obtain ⟨h', s, -, hemit, rfl, hrun⟩ := Pass.emitted_of_ok hended
  rw [flatMap_matchesOf] at hemit
  obtain ⟨behind, hbehind, hstems, hextends, hhits⟩ :=
    Emission.accounts_emitAll (arisesUnder_pairs hoffered) rfl hc.stems hemit
  refine ⟨behind, hstems, hextends, ?_, ?_, ?_⟩
  · rw [Pass.cacheAfter, hrun, Pass.fresh, Emission.cache_sweep, hbehind]
    rfl
  · rw [Emission.sweep, hbehind]
  · rw [Emission.sweep, hbehind, hhits]
    exact Nat.zero_add _

/-- Between two passes a cache is settled. -/
theorem Carried.settled (hc : Carried config cache) : cache.Settled config := by
  induction hc with
  | empty => exact settled_empty config
  | @pass cache _ H _ h hoffered report hended ih =>
    obtain ⟨behind, hstems, hextends, hafter, -⟩ := ih.run_cases hoffered hended
    rw [hafter]
    refine ⟨hstems.sweep, ?_, behind.marked_sweep⟩
    rw [keys_sweep]
    exact behind.marked_sublist_keys.nodup (hextends.nodup ih.nodup)

/-- **The accounts of a pass hold**, whatever passes have had the cache before: what it keeps, how
many units it has supplied and how many entries are evicted follow from the keys that were held and
from the matches of the pass. -/
theorem Carried.accounted (hc : Carried config cache)
    (hoffered : ∀ c ∈ Pass.offered h, c.Addressable)
    (hended : ((Pass.fresh config (some cache)).run h).result = .ok report) :
    Accounted config cache.keys (pairs config (Pass.offered h)) (Pass.cacheAfter config cache h)
      report := by
  obtain ⟨behind, -, hextends, hafter, hevicted, hhits⟩ := hc.settled.run_cases hoffered hended
  refine ⟨?_, hhits, ?_⟩
  · rw [hafter, keys_sweep]
    exact hc.settled.marked_perm hextends
  · rw [hevicted, hc.settled.stale_eq (arisesUnder_pairs hoffered) hextends]

/-! ## Two passes -/

theorem addressable_memberless (e : Engine) : (plain e []).Addressable :=
  addressable_plain e fun _ hm => nomatch hm

/-- The type for XML under another name. -/
def twin : Candidate := { plain .xml [] with header := ⟨"Twin", .class_, [.partial_], []⟩ }

theorem addressable_twin : twin.Addressable :=
  { addressable_memberless .xml with
    header := ⟨(by decide : 1 < CacheKey.wordLimit), (by decide : 0 < CacheKey.wordLimit)⟩ }

theorem addressable_twiceMarked : Pass.twiceMarked.Addressable :=
  { addressable_memberless .json with
    attributes := by
      intro usage hmem
      rcases List.mem_cons.mp hmem with rfl | hmem
      · exact (by decide : 0 < CacheKey.wordLimit)
      · exact (addressable_memberless .json).attributes usage hmem }

/-- A host that offers one type for each engine. -/
def both : MemoryHost := .ofCandidates [plain .json [], plain .xml []]

/-- A host that offers the second of them, a type without a unit, and a new type twice. -/
def later : MemoryHost := .ofCandidates [plain .xml [], Pass.twiceMarked, twin, twin]

/-- The cache behind a pass over the first host. -/
def afterBoth : UnitCache := Pass.cacheAfter .standard .empty both

theorem carried_afterBoth : Carried .standard afterBoth := by
  have hended : ((Pass.fresh .standard (some .empty)).run both).result =
      .ok ⟨2, 2, [.flatten ⟨[⟨"Pair", 0⟩]⟩ .json, .flatten ⟨[⟨"Pair", 0⟩]⟩ .xml], 0, 0, []⟩ := rfl
  refine Carried.pass .empty ?_ hended
  intro c hc
  rw [both, offered_memory, List.mem_cons, List.mem_singleton] at hc
  rcases hc with rfl | rfl <;> exact addressable_memberless _

/-- The report of a pass over the second host. -/
def laterReport : Report where
  visited := 4
  matched := 4
  submitted := [.flatten ⟨[⟨"Pair", 0⟩]⟩ .xml, .flatten ⟨[⟨"Twin", 0⟩]⟩ .xml,
    .flatten ⟨[⟨"Twin", 0⟩]⟩ .xml]
  cacheHits := 2
  evicted := 1
  diagnostics := [(GenerationError.ambiguousMarker .json 2).diagnostic "Pair"]

/-- One unit comes from the pass before and one from this pass, the entry of the type that is gone
is evicted, and there is none for the type without a unit. -/
theorem Carried.accounted_later :
    ((Pass.fresh .standard (some afterBoth)).run later).result = .ok laterReport ∧
      (Pass.cacheAfter .standard afterBoth later).keys.Perm
        [Match.key ⟨plain .xml [], .xml⟩ .standard, Match.key ⟨twin, .xml⟩ .standard] := by
  have hresult : ((Pass.fresh .standard (some afterBoth)).run later).result = .ok laterReport := rfl
  have hoffered : ∀ c ∈ Pass.offered later, c.Addressable := by
    intro c hc
    rw [later, offered_memory] at hc
    simp only [List.mem_cons, List.not_mem_nil, or_false] at hc
    rcases hc with rfl | rfl | rfl | rfl
    · exact addressable_memberless _
    · exact addressable_twiceMarked
    · exact addressable_twin
    · exact addressable_twin
  exact ⟨hresult, (carried_afterBoth.accounted hoffered hresult).kept⟩

end UnitCache

end DataContract
