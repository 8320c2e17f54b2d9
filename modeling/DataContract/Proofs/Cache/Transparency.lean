import DataContract.Proofs.Cache.Confusion
import Mathlib.Data.List.Forall2

/-!
# When a shared cache makes no difference

Several passes, each with its own configuration and its own host, may share one cache.  The cache is
*transparent* if each of them ends as it would have ended without: the host has been given the same,
and the report is the same but for what it says about the cache.

This is so exactly if no two of the configurations can be confused.

* If none can be, then every entry that is found under a key holds what would be generated
  (`Match.produce_result`), so the two runs stay alike from one match to the next.
* If two can be, then a type with the static members that one indentation is mistaken for, generated
  under the other configuration, leaves its unit in the cache.  The type without these members finds
  it there under the first configuration, and gets a unit with the wrong indentation.
-/

namespace DataContract

open Declaration

/-- Outcomes with the same host and the same result, but for what the report says about the
cache. -/
structure Outcome.Agrees {H : Type} (o u : Outcome H Report) : Prop where
  host : o.host = u.host
  result : o.result.map Report.essence = u.result.map Report.essence

namespace Pass

variable {H : Type} [Host H]

/-- The outcomes of passes that share a cache, one after the other. -/
def sharing : UnitCache → List (Configuration × H) → List (Outcome H Report)
  | _, [] => []
  | cache, (config, h) :: rest =>
    let o := (fresh config (some cache)).run h
    o :: sharing (o.pass.cache.getD cache) rest

/-- A cache that the passes share makes no difference to any of them. -/
def Transparent (passes : List (Configuration × H)) : Prop :=
  List.Forall₂ Outcome.Agrees (sharing .empty passes)
    (passes.map fun (config, h) => (fresh config none).run h)

/-! ## Configurations that cannot be confused -/

variable {allowed : Configuration → Prop}

/-- Emissions with different caches stay alike. -/
theorem emitAll_alike {config : Configuration} (ha : allowed config)
    (hconfusable : ∀ a b, allowed a → allowed b → ¬CacheKey.Confusable a b) {ms : List Match}
    (hms : ∀ m ∈ ms, m.ArisesUnder config) {s u : Emission H} (h : s.Alike u)
    (hs : CacheStems allowed s.cache) (hu : CacheStems allowed u.cache) :
    (Emission.emitAll config ms s).1 = (Emission.emitAll config ms u).1 ∧
      (Emission.emitAll config ms s).2.Alike (Emission.emitAll config ms u).2 := by
  induction ms generalizing s u with
  | nil => exact ⟨rfl, h⟩
  | cons m ms ih =>
    have hm := hms m (List.mem_cons_self ..)
    have hresult : (m.produce config s.cache).result = (m.produce config u.cache).result := by
      rw [Match.produce_result ha hm hconfusable hs, Match.produce_result ha hm hconfusable hu]
    have hs' : CacheStems allowed (s.emit config m).2.cache := by
      rw [Emission.cache_emit]
      exact Match.cacheStems_produce ha hm hs
    have hu' : CacheStems allowed (u.emit config m).2.cache := by
      rw [Emission.cache_emit]
      exact Match.cacheStems_produce ha hm hu
    obtain ⟨hfirst, hnext⟩ := h.emit hresult
    rw [Emission.emitAll, Emission.emitAll]
    rcases hse : s.emit config m with ⟨r, s'⟩
    rcases hue : u.emit config m with ⟨t, u'⟩
    rw [hse] at hfirst hnext hs'
    rw [hue] at hfirst hnext hu'
    subst hfirst
    cases r with
    | ok _ => exact ih (fun m hm => hms m (List.mem_cons_of_mem _ hm)) hnext hs' hu'
    | error error => exact ⟨rfl, hnext⟩

/-- Runs with different caches agree. -/
theorem run_agrees {config : Configuration} (ha : allowed config)
    (hconfusable : ∀ a b, allowed a → allowed b → ¬CacheKey.Confusable a b) {h : H}
    (hoffered : ∀ c ∈ offered h, c.Addressable) {cache cache' : Option UnitCache}
    (hc : CacheStems allowed cache) (hc' : CacheStems allowed cache') :
    ((fresh config cache).run h).Agrees ((fresh config cache').run h) := by
  rcases hd : declareMarkers Engine.all h with ⟨_ | _, h'⟩
  · rw [run_fresh_of_error config cache hd, run_fresh_of_error config cache' hd]
    exact ⟨rfl, rfl⟩
  · have hms : ∀ m ∈ (offered h).flatMap (matchesOf config), m.ArisesUnder config := fun m hm =>
      arisesUnder_of_mem hoffered hm
    have hstart : ((gathered config cache (offered h)).emission h').Alike
        ((gathered config cache' (offered h)).emission h') := ⟨rfl, rfl⟩
    have hall := emitAll_alike ha hconfusable hms hstart hc hc'
    rw [run_fresh_of_ok config cache hd, run_fresh_of_ok config cache' hd,
      finish_eq (finish_allowedIn_gathered ..), finish_eq (finish_allowedIn_gathered ..),
      found_gathered, found_gathered]
    show Outcome.Agrees
      { conclude _ (Emission.emitAll config _ _) with log := _ }
      { conclude _ (Emission.emitAll config _ _) with log := _ }
    rcases hs : ((gathered config cache (offered h)).emission h').emitAll config
      ((offered h).flatMap (matchesOf config)) with ⟨r, s⟩
    rcases hu : ((gathered config cache' (offered h)).emission h').emitAll config
      ((offered h).flatMap (matchesOf config)) with ⟨t, u⟩
    rw [hs, hu] at hall
    obtain ⟨hresult, halike⟩ := hall
    dsimp only at hresult halike
    subst hresult
    cases r with
    | ok _ => exact ⟨halike.sweep.host, congrArg Except.ok halike.sweep.report⟩
    | error error => exact ⟨halike.host, rfl⟩

/-- A shared cache whose entries stem from allowed configurations makes no difference. -/
theorem sharing_agrees (hconfusable : ∀ a b, allowed a → allowed b → ¬CacheKey.Confusable a b)
    {passes : List (Configuration × H)}
    (hpasses : ∀ x ∈ passes, allowed x.1 ∧ ∀ c ∈ offered x.2, c.Addressable) {cache : UnitCache}
    (hc : cache.StemsFrom allowed) :
    List.Forall₂ Outcome.Agrees (sharing cache passes)
      (passes.map fun (config, h) => (fresh config none).run h) := by
  induction passes generalizing cache with
  | nil => exact List.Forall₂.nil
  | cons x passes ih =>
    obtain ⟨config, h⟩ := x
    obtain ⟨ha, hoffered⟩ := hpasses (config, h) (List.mem_cons_self ..)
    have hsome := cacheStems_some.mpr hc
    have hrun := cacheStems_run ha hoffered hsome
    refine List.Forall₂.cons
      (run_agrees ha hconfusable hoffered hsome fun _ hnone => nomatch hnone)
      (ih (fun x hx => hpasses x (List.mem_cons_of_mem _ hx)) ?_)
    cases hcache : ((fresh config (some cache)).run h).pass.cache with
    | none => exact hc
    | some behind => exact hrun behind hcache

/-- Indentations that do not begin with U+0003, as no blank ones do, cannot be confused. -/
theorem transparent_of_head_ne {passes : List (Configuration × H)}
    (hpasses : ∀ x ∈ passes, x.1.layout.indent.toList.head? ≠ some '\x03' ∧
      ∀ c ∈ offered x.2, c.Addressable) : Transparent passes := by
  have hnone : ∀ a b : Configuration, a.layout.indent.toList.head? ≠ some '\x03' →
      b.layout.indent.toList.head? ≠ some '\x03' → ¬CacheKey.Confusable a b :=
    fun _ _ ha _ h => ha h.surplus.head
  exact sharing_agrees hnone hpasses UnitCache.stemsFrom_empty

/-! ## Configurations that can be confused -/

/-- The pass under `a` is given the unit that the pass under `b` has left in the cache. -/
theorem not_transparent_of_key_eq {a b : Configuration} {e : Engine} (ha : e ∈ a.engines)
    (hb : e ∈ b.engines) {ms : List Member}
    (hkey : CacheKey.of (plain e []) e a = CacheKey.of (plain e ms) e b)
    (hunit : plainUnit e b ≠ plainUnit e a) :
    ¬Transparent [(b, MemoryHost.ofCandidates [plain e ms]),
      (a, MemoryHost.ofCandidates [plain e []])] := by
  intro htransparent
  rw [Transparent, sharing, sharing, sharing, cache_run_plain hb, Option.getD_some] at htransparent
  obtain ⟨rest, hfound, -⟩ := matchesOf_plain ha []
  have hhost := (List.forall₂_cons.mp (List.forall₂_cons.mp htransparent).2).1.host
  have hsame : Match.key ⟨plain e [], e⟩ a = CacheKey.of (plain e ms) e b := hkey
  have hhit : (Match.produce ⟨plain e [], e⟩ a
      (some ⟨[⟨.of (plain e ms) e b, ⟨plainUnit e b, []⟩, false⟩]⟩)).result =
        .ok ⟨plainUnit e b, []⟩ := (produce_singleton hsame).1
  have hmiss : (Match.produce ⟨plain e [], e⟩ a none).result = .ok ⟨plainUnit e a, []⟩ :=
    (Match.produce_none_result ..).trans (generate_plain e [] a)
  have hcached := head_units_run hfound hhit
  have hfresh := head_units_run hfound hmiss
  dsimp only at hhost
  rw [hhost, hfresh] at hcached
  exact hunit (Option.some.inj hcached).symm

/-- Configurations that can be confused are confused by some history. -/
theorem exists_not_transparent {a b : Configuration} (h : CacheKey.Confusable a b) :
    ∃ cs ds : List Candidate, (∀ c ∈ cs ++ ds, c.Addressable) ∧
      ¬Transparent [(b, MemoryHost.ofCandidates cs), (a, MemoryHost.ofCandidates ds)] := by
  obtain ⟨e, ha, hb⟩ := h.engine
  obtain ⟨ms, -, hms, hbytes⟩ := h.surplus
  have hkey := key_plain h (fun m hm => (hms m hm).1) hbytes e
  refine ⟨[plain e ms], [plain e []], ?_, not_transparent_of_key_eq ha hb hkey (source_plain_ne h e)⟩
  intro c hc
  rw [List.mem_append, List.mem_singleton, List.mem_singleton] at hc
  rcases hc with rfl | rfl
  · exact addressable_plain e fun m hm => (hms m hm).2
  · exact addressable_plain e fun _ hm => nomatch hm

/-! ## The exact condition -/

/-- **Sharing a cache makes no difference exactly if no two of the configurations can be
confused.**  This is for all histories of passes under allowed configurations, over hosts of any
kind that may refuse any declaration and any unit. -/
theorem transparent_iff_not_confusable {allowed : Configuration → Prop} :
    (∀ (H : Type) [Host H] (passes : List (Configuration × H)),
      (∀ x ∈ passes, allowed x.1 ∧ ∀ c ∈ offered x.2, c.Addressable) → Transparent passes) ↔
      ∀ a b, allowed a → allowed b → ¬CacheKey.Confusable a b := by
  constructor
  · intro htransparent a b ha hb h
    obtain ⟨cs, ds, haddressable, hnot⟩ := exists_not_transparent h
    refine hnot (htransparent MemoryHost _ ?_)
    intro x hx
    rw [List.mem_cons, List.mem_singleton] at hx
    rcases hx with rfl | rfl
    · refine ⟨hb, fun c hc => haddressable c (List.mem_append_left _ ?_)⟩
      rwa [offered_memory] at hc
    · refine ⟨ha, fun c hc => haddressable c (List.mem_append_right _ ?_)⟩
      rwa [offered_memory] at hc
  · intro hconfusable H _ passes hpasses
    exact sharing_agrees hconfusable hpasses UnitCache.stemsFrom_empty

/-- A static member without a name. -/
def unnamed : Member := .other ⟨[.static], none⟩

/-- The configuration for JSON with a given indentation, and without documentation or header. -/
def indented (indent : String) : Configuration := ⟨[.json], .warn, ⟨indent, false, false⟩, true⟩

/-- A tabulator behind the thirty-two bytes of the member without a name. -/
def mistaken : String :=
  String.ofList ((CacheKey.ofMember unnamed).map fun b => Char.ofNat b.toNat) ++ "\t"

theorem confusable_mistaken : CacheKey.Confusable (indented mistaken) (indented "\t") where
  engine := ⟨.json, by decide, by decide⟩
  unresolved := rfl
  docComments := rfl
  header := rfl
  surplus := by
    refine ⟨[unnamed], List.cons_ne_nil _ _, fun m hm => ?_, by decide⟩
    rw [List.mem_singleton.mp hm]
    exact ⟨rfl, (by decide : 1 < CacheKey.wordLimit)⟩

/-- A type with a static member that has no name, written with tabulators, leaves its unit to the
type without that member, which is to be written with an indentation mistaken for it. -/
theorem not_transparent_of_unnamed :
    ¬Transparent [(indented "\t", MemoryHost.ofCandidates [plain .json [unnamed]]),
      (indented mistaken, MemoryHost.ofCandidates [plain .json []])] :=
  not_transparent_of_key_eq (by decide) (by decide)
    (key_plain confusable_mistaken (by decide) (by decide) .json)
    (source_plain_ne confusable_mistaken .json)

end Pass

end DataContract
