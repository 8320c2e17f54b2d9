import DataContract.Host.Memory
import DataContract.Proofs.Cache.Provenance
import DataContract.Proofs.Source.Indentation

/-!
# What happens to configurations that can be confused

If the indentation of `a` has the bytes of some static members in front of those of the indentation
of `b`, then one type with these members and one without have the same key, the first under `b` and
the second under `a`.  Here this is followed through two passes over hosts in memory.

* `plain e ms` is a type that is eligible for the engine `e` alone, with the members `ms`.
* `cache_run_plain` --- a pass under `b` that is offered the type with the members leaves its unit
  in the cache.
* `head_units_run` --- the first unit that a host is given is the one that is produced for the first
  match, so a pass under `a` that finds this unit passes it on.
* `source_plain_ne` --- that unit has the wrong indentation.
-/

namespace DataContract

open Declaration

/-! ## A type for one engine -/

/-- A type that is eligible for an engine, with the given members. -/
def plain (e : Engine) (ms : List Member) : Candidate where
  header := ⟨"Pair", .class_, [.partial_], []⟩
  attributes := [⟨e.markerPath, [], ""⟩, ⟨Engine.serializableMarker, [], ""⟩]
  members := ms
  enclosing := []
  within := none

/-- The unit for such a type. -/
def plainUnit (e : Engine) (config : Configuration) : GeneratedUnit :=
  ⟨.flatten ⟨[⟨"Pair", 0⟩]⟩ e,
    (Source.Node.type ⟨"Pair", .class_, [.partial_], []⟩
      ((Source.methodsFor ⟨"Pair", .class_, [.partial_], []⟩ e .standard).map .method)).render
        config.layout⟩

theorem addressable_plain (e : Engine) {ms : List Member} (hms : ∀ m ∈ ms, m.Addressable) :
    (plain e ms).Addressable where
  header := ⟨(by decide : 1 < CacheKey.wordLimit), (by decide : 0 < CacheKey.wordLimit)⟩
  enclosing_length := (by decide : 0 < CacheKey.wordLimit)
  enclosing := fun _ h => nomatch h
  attributes := by
    intro usage h
    rw [plain, List.mem_cons, List.mem_singleton] at h
    rcases h with rfl | rfl <;> exact (by decide : 0 < CacheKey.wordLimit)
  members := hms

/-- The type is eligible for its engine and for no other. -/
theorem eligible_plain (e f : Engine) (ms : List Member) :
    eligible (plain e ms) f = true ↔ f = e := by
  show eligible (plain e []) f = true ↔ f = e
  cases e <;> cases f <;> decide

/-- Every match of the type is for its engine. -/
theorem matchesOf_plain {config : Configuration} {e : Engine} (he : e ∈ config.engines)
    (ms : List Member) :
    ∃ rest, [plain e ms].flatMap (Pass.matchesOf config) = ⟨plain e ms, e⟩ :: rest ∧
      ∀ m ∈ rest, m = ⟨plain e ms, e⟩ := by
  have hall : ∀ m ∈ [plain e ms].flatMap (Pass.matchesOf config), m = ⟨plain e ms, e⟩ := by
    rintro ⟨c, f⟩ hm
    rw [List.flatMap_singleton] at hm
    obtain ⟨rfl, -, heligible⟩ := Pass.mem_matchesOf.mp hm
    rw [(eligible_plain e f ms).mp heligible]
  have hmem : ⟨plain e ms, e⟩ ∈ [plain e ms].flatMap (Pass.matchesOf config) := by
    rw [List.flatMap_singleton]
    exact Pass.mem_matchesOf.mpr ⟨rfl, he, (eligible_plain e e ms).mpr rfl⟩
  cases hfound : [plain e ms].flatMap (Pass.matchesOf config) with
  | nil =>
    rw [hfound] at hmem
    exact absurd hmem List.not_mem_nil
  | cons m rest =>
    rw [hfound] at hall
    rw [hall m (List.mem_cons_self ..)]
    exact ⟨rest, rfl, fun m hm => hall m (List.mem_cons_of_mem _ hm)⟩

/-- The members of the type do not matter for its unit. -/
theorem generate_plain (e : Engine) (ms : List Member) (config : Configuration) :
    generate (plain e ms) e config = .ok ⟨plainUnit e config, []⟩ := by
  have hbind : bindMarker (plain e ms) e = .ok .standard := by
    cases e <;> rfl
  have hresolve : resolve (plain e ms) e = .ok .standard := by
    rw [resolve, hbind]
    rfl
  rw [generate, hresolve]
  rfl

/-- The members that an indentation is mistaken for make up for its length. -/
theorem key_plain {a b : Configuration} (h : CacheKey.Confusable a b) {ms : List Member}
    (hms : ∀ m ∈ ms, m.isStatic = true)
    (hbytes : CacheKey.utf8 a.layout.indent =
      ms.flatMap CacheKey.ofMember ++ CacheKey.utf8 b.layout.indent) (e : Engine) :
    CacheKey.of (plain e []) e a = CacheKey.of (plain e ms) e b := by
  have hstatic : (plain e ms).members.filter Member.isStatic = ms := List.filter_eq_self.mpr hms
  have hnone : (plain e []).members.filter Member.isStatic = [] := rfl
  have htail : CacheKey.tailOf a = CacheKey.tailOf b := by
    rw [CacheKey.tailOf, CacheKey.tailOf, h.docComments, h.header, h.unresolved]
  refine congrArg CacheKey.mk ?_
  simp only [List.append_assoc, CacheKey.ofLayout_append, hstatic, hnone, hbytes, htail,
    List.flatMap_nil, List.nil_append]
  rfl

/-- The unit is not the same under both configurations. -/
theorem source_plain_ne {a b : Configuration} (h : CacheKey.Confusable a b) (e : Engine) :
    plainUnit e b ≠ plainUnit e a := by
  have hsize : ∀ s : String, (CacheKey.utf8 s).length = s.utf8ByteSize := by
    intro s
    rw [← String.size_toByteArray, ← String.utf8Encode_toList, List.utf8Encode,
      List.size_toByteArray]
    rfl
  have hlt : b.layout.indent.utf8ByteSize < a.layout.indent.utf8ByteSize := by
    obtain ⟨ms, hne, -, hbytes⟩ := h.surplus
    obtain ⟨m, ms, rfl⟩ := List.exists_cons_of_ne_nil hne
    have hpos : 0 < (CacheKey.ofMember m).length := by
      cases m <;> simp [CacheKey.ofMember]
    rw [← hsize, ← hsize, hbytes, List.flatMap_cons, List.length_append, List.length_append]
    omega
  have hline : ∃ x ∈ (Source.Node.type ⟨"Pair", .class_, [.partial_], []⟩
      ((Source.methodsFor ⟨"Pair", .class_, [.partial_], []⟩ e .standard).map .method)).lines 0,
      x.isDoc = false ∧ 0 < x.depth ∧ x.text.isEmpty = false := by
    refine ⟨Source.code 1 "\x7b", ?_, rfl, by decide, by decide⟩
    simp [Source.methodsFor, Resolution.standard, Source.Node.lines, Source.bodyLines,
      Source.Method.lines, Source.braced]
  intro heq
  exact Source.render_ne_of_lt h.docComments.symm h.header.symm hlt hline
    (congrArg GeneratedUnit.source heq)

/-! ## Passes over a host in memory -/

theorem declareMarkers_memory (engines : List Engine) (h : MemoryHost) :
    Pass.declareMarkers engines h =
      (.ok (), { h with preludes := h.preludes ++ engines.map Engine.markerDeclaration }) := by
  induction engines generalizing h with
  | nil => rw [Pass.declareMarkers, List.map_nil, List.append_nil]
  | cons e engines ih =>
    show Pass.declareMarkers engines (h.addPrelude e.markerDeclaration) = _
    rw [ih, MemoryHost.addPrelude, List.append_assoc]
    rfl

theorem offered_memory (cs : List Candidate) : Pass.offered (MemoryHost.ofCandidates cs) = cs := by
  rw [Pass.offered, declareMarkers_memory]
  rfl

theorem units_diagnoseAll (s : Emission MemoryHost) (ds : Diagnostics) :
    (s.diagnoseAll ds).host.units = s.host.units := by
  induction ds generalizing s with
  | nil => rfl
  | cons d ds ih => exact ih (s.diagnose d)

/-- A host in memory is given the unit that is produced, if one is. -/
theorem emit_memory (s : Emission MemoryHost) (config : Configuration) (m : Match) :
    (s.emit config m).1 = .ok () ∧
      (s.emit config m).2.host.units =
        s.host.units ++ ((m.produce config s.cache).result.toOption.map (·.unit)).toList := by
  rw [Emission.emit]
  cases (m.produce config s.cache).result with
  | ok generated =>
    refine ⟨rfl, ?_⟩
    show ((s.record _).diagnoseAll generated.warnings).host.units ++ [generated.unit] = _
    rw [units_diagnoseAll]
    rfl
  | error error => exact ⟨rfl, (List.append_nil _).symm⟩

/-- Emission to a host in memory always succeeds, and only adds units. -/
theorem emitAll_memory (config : Configuration) (ms : List Match) (s : Emission MemoryHost) :
    (Emission.emitAll config ms s).1 = .ok () ∧
      ∃ more, (Emission.emitAll config ms s).2.host.units = s.host.units ++ more := by
  induction ms generalizing s with
  | nil => exact ⟨rfl, [], (List.append_nil _).symm⟩
  | cons m ms ih =>
    obtain ⟨hok, hunits⟩ := emit_memory s config m
    rw [Emission.emitAll]
    rcases hemit : s.emit config m with ⟨r, s'⟩
    rw [hemit] at hok hunits
    dsimp only at hok hunits
    subst hok
    obtain ⟨hall, more, hmore⟩ := ih s'
    exact ⟨hall, _, by rw [hmore, hunits, List.append_assoc]⟩

/-- A run over a host in memory, from the first match on. -/
theorem run_memory {config : Configuration} {cs : List Candidate} {m : Match} {rest : List Match}
    (hfound : cs.flatMap (Pass.matchesOf config) = m :: rest) (cache : Option UnitCache) :
    ∃ s : Emission MemoryHost, s.cache = cache ∧ s.host.units = [] ∧
      ((Pass.fresh config cache).run (MemoryHost.ofCandidates cs)).host =
        (Emission.emitAll config rest (s.emit config m).2).2.host ∧
      ((Pass.fresh config cache).run (MemoryHost.ofCandidates cs)).pass.cache =
        (Emission.emitAll config rest (s.emit config m).2).2.cache.map UnitCache.sweep := by
  obtain ⟨h', hdeclared, hunits⟩ : ∃ h' : MemoryHost,
      Pass.declareMarkers Engine.all (MemoryHost.ofCandidates cs) = (.ok (), h') ∧ h'.units = [] :=
    ⟨_, declareMarkers_memory Engine.all _, rfl⟩
  refine ⟨(Pass.gathered config cache cs).emission h', rfl, hunits, ?_⟩
  have hall : Emission.emitAll config (m :: rest) ((Pass.gathered config cache cs).emission h') =
      (.ok (), (Emission.emitAll config rest
        (((Pass.gathered config cache cs).emission h').emit config m).2).2) := by
    have hfirst := (emit_memory ((Pass.gathered config cache cs).emission h') config m).1
    rw [Emission.emitAll]
    rcases hemit : ((Pass.gathered config cache cs).emission h').emit config m with ⟨r, s⟩
    rw [hemit] at hfirst
    dsimp only at hfirst ⊢
    subst hfirst
    exact Prod.ext (emitAll_memory config rest s).1 rfl
  rw [Pass.run_fresh_of_ok config cache hdeclared, offered_memory,
    Pass.finish_eq (Pass.finish_allowedIn_gathered ..), Pass.found_gathered, hfound]
  show (Pass.conclude _ (Emission.emitAll config (m :: rest) _)).host = _ ∧
    (Pass.conclude _ (Emission.emitAll config (m :: rest) _)).pass.cache = _
  rw [hall]
  exact ⟨Emission.host_sweep _, Emission.cache_sweep _⟩

/-- The first unit that a host in memory is given is the one produced for the first match. -/
theorem head_units_run {config : Configuration} {cs : List Candidate} {m : Match}
    {rest : List Match} (hfound : cs.flatMap (Pass.matchesOf config) = m :: rest)
    {cache : Option UnitCache} {generated : Generated}
    (hmade : (m.produce config cache).result = .ok generated) :
    ((Pass.fresh config cache).run (MemoryHost.ofCandidates cs)).host.units.head? =
      some generated.unit := by
  obtain ⟨s, rfl, hunits, hhost, -⟩ := run_memory hfound cache
  obtain ⟨-, more, hmore⟩ := emitAll_memory config rest (s.emit config m).2
  rw [hhost, hmore, (emit_memory s config m).2, hmade, hunits]
  rfl

/-- The unit of the type is put into an empty cache. -/
theorem cache_produce_empty (e : Engine) (ms : List Member) (config : Configuration) :
    (Match.produce ⟨plain e ms, e⟩ config (some .empty)).cache =
      some ⟨[⟨.of (plain e ms) e config, ⟨plainUnit e config, []⟩, true⟩]⟩ := by
  rcases Match.produceCached_eq ⟨plain e ms, e⟩ config .empty with
    ⟨generated, hget, -⟩ | ⟨-, log, ⟨generated, hg, heq⟩ | ⟨error, hg, -⟩⟩
  · cases hget
  · rw [generate_plain] at hg
    rw [Match.produce, heq, ← Except.ok.inj hg]
    rfl
  · rw [generate_plain] at hg
    cases hg

/-- A unit that is in a cache on its own is found under its key, and stays there. -/
theorem produce_singleton {m : Match} {config : Configuration} {key : CacheKey}
    {generated : Generated} {touched : Bool} (hkey : m.key config = key) :
    (m.produce config (some ⟨[⟨key, generated, touched⟩]⟩)).result = .ok generated ∧
      (m.produce config (some ⟨[⟨key, generated, touched⟩]⟩)).cache =
        some ⟨[⟨key, generated, true⟩]⟩ := by
  subst hkey
  have hget : (UnitCache.get? ⟨[⟨m.key config, generated, touched⟩]⟩ (m.key config)).1 =
      some generated := by
    simp [UnitCache.get?, UnitCache.find?]
  have htouch : UnitCache.touch ⟨[⟨m.key config, generated, touched⟩]⟩ (m.key config) =
      ⟨[⟨m.key config, generated, true⟩]⟩ := by
    simp [UnitCache.touch]
  rcases m.produceCached_eq config ⟨[⟨m.key config, generated, touched⟩]⟩ with
    ⟨found, hfound, heq⟩ | ⟨hnone, -⟩
  · rw [hget] at hfound
    rw [Match.produce, heq, ← Option.some.inj hfound, htouch]
    exact ⟨rfl, rfl⟩
  · rw [hget] at hnone
    cases hnone

/-- **The unit of the type stays in the cache.** -/
theorem cache_run_plain {config : Configuration} {e : Engine} (he : e ∈ config.engines)
    (ms : List Member) :
    ((Pass.fresh config (some .empty)).run (MemoryHost.ofCandidates [plain e ms])).pass.cache =
      some ⟨[⟨.of (plain e ms) e config, ⟨plainUnit e config, []⟩, false⟩]⟩ := by
  obtain ⟨rest, hfound, hrest⟩ := matchesOf_plain he ms
  obtain ⟨s, hs, -, -, hcache⟩ := run_memory hfound (some .empty)
  have hmade : (s.emit config ⟨plain e ms, e⟩).2.cache =
      some ⟨[⟨.of (plain e ms) e config, ⟨plainUnit e config, []⟩, true⟩]⟩ := by
    rw [Emission.cache_emit, hs, cache_produce_empty]
  have hkept : (Emission.emitAll config rest (s.emit config ⟨plain e ms, e⟩).2).2.cache =
      some ⟨[⟨.of (plain e ms) e config, ⟨plainUnit e config, []⟩, true⟩]⟩ := by
    refine Emission.cache_emitAll
      (P := (· = some ⟨[⟨.of (plain e ms) e config, ⟨plainUnit e config, []⟩, true⟩]⟩))
      (fun m hm cache hc => ?_) hmade
    rw [hrest m hm, hc]
    exact (produce_singleton rfl).2
  rw [hcache, hkept]
  rfl

end DataContract
