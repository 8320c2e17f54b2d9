import DataContract.Proofs.Generation.Relevant
import DataContract.Proofs.Pass.Run

/-!
# The units that a log tells of

A host may refuse a unit, and a match may come to nothing, so which units have been submitted is not
known before the run.  But it can be read off the log: `submissions` are the names of the units that
the host has taken, in order.

They are names of matches, each of which is used at most once and in the order in which they were
found (`submissions_run`), as long as the cache only gives out units that have the name of the match
they are given for.
-/

namespace DataContract

open Declaration

/-- The name of the unit that an event tells of. -/
def Event.submission? : Event → Option UnitName
  | unitSubmitted unit _ => some unit
  | _ => none

/-- The names of the units that a log tells of. -/
def submissions (log : Log) : List UnitName := log.filterMap Event.submission?

@[simp] theorem submissions_append (log log' : Log) :
    submissions (log ++ log') = submissions log ++ submissions log' :=
  List.filterMap_append

namespace Match

/-- The name of the unit for a match. -/
def unitName (m : Match) : UnitName := .ofCandidate m.candidate m.engine

/-- What is generated for a match has its name. -/
theorem name_of_generate {m : Match} {config : Configuration} {generated : Generated}
    (h : generate m.candidate m.engine config = .ok generated) :
    generated.unit.name = m.unitName := by
  obtain ⟨r, tree, -, -, -, hunit⟩ := steps_of_generate h
  rw [hunit, unitName]

/-- Production submits nothing. -/
theorem submissions_produce (m : Match) (config : Configuration) (cache : Option UnitCache) :
    submissions (m.produce config cache).log = [] := by
  have hlogged : submissions (m.generateLogged config).2 = [] := by
    rw [generateLogged]
    cases resolve m.candidate m.engine <;> rfl
  cases cache with
  | none => exact hlogged
  | some cache =>
    rw [produce, produceCached]
    rcases cache.get? (m.key config) with ⟨_ | _, touched⟩
    · rcases hmade : m.generateLogged config with ⟨_ | _, log⟩
      · rw [hmade] at hlogged
        exact hlogged
      · rw [hmade] at hlogged
        exact hlogged
    · rfl

end Match

namespace Emission

variable {H : Type} [Host H]

@[simp] theorem submissions_diagnoseAll (s : Emission H) (ds : Diagnostics) :
    submissions (s.diagnoseAll ds).log = submissions s.log := by
  induction ds generalizing s with
  | nil => rfl
  | cons d ds ih =>
    have hevent : submissions [diagnosticEvent d] = [] := by
      rw [diagnosticEvent]
      cases d.isError <;> rfl
    show submissions ((s.diagnose d).diagnoseAll ds).log = submissions s.log
    rw [ih, diagnose, submissions_append, hevent, List.append_nil]

/-- Submitting a unit adds it to the log or, if the host refuses it, does not. -/
theorem submissions_submit (s : Emission H) (e : Engine) (unit : GeneratedUnit) :
    submissions (s.submit e unit).2.log = submissions s.log ++ [unit.name] ∨
      submissions (s.submit e unit).2.log = submissions s.log := by
  rw [submit]
  rcases Host.submit unit s.host with ⟨_ | _, host⟩
  · exact Or.inr rfl
  · exact Or.inl (submissions_append _ _)

/-- A match adds its name to the log or nothing. -/
theorem submissions_emit {s : Emission H} {config : Configuration} {m : Match}
    (hname : ∀ generated, (m.produce config s.cache).result = .ok generated →
      generated.unit.name = m.unitName) :
    submissions (s.emit config m).2.log = submissions s.log ++ [m.unitName] ∨
      submissions (s.emit config m).2.log = submissions s.log := by
  have hrecord : submissions (s.record (m.produce config s.cache)).log = submissions s.log := by
    rw [record, submissions_append, m.submissions_produce, List.append_nil]
  rw [emit]
  cases hresult : (m.produce config s.cache).result with
  | error error =>
    refine Or.inr (Eq.trans ?_ hrecord)
    exact submissions_diagnoseAll _ [error.diagnostic m.candidate.target]
  | ok generated =>
    rw [← hrecord, ← hname generated hresult,
      ← submissions_diagnoseAll (s.record (m.produce config s.cache)) generated.warnings]
    exact submissions_submit _ m.engine generated.unit

/-- **Emission adds the names of some of the matches**, in their order. -/
theorem submissions_emitAll {P : Option UnitCache → Prop} {config : Configuration}
    {ms : List Match} (hP : ∀ m ∈ ms, ∀ cache, P cache → P (m.produce config cache).cache)
    (hname : ∀ m ∈ ms, ∀ cache, P cache → ∀ generated,
      (m.produce config cache).result = .ok generated → generated.unit.name = m.unitName)
    {s : Emission H} (hs : P s.cache) :
    ∃ taken : List Match, taken.Sublist ms ∧
      submissions (emitAll config ms s).2.log =
        submissions s.log ++ taken.map Match.unitName := by
  induction ms generalizing s with
  | nil => exact ⟨[], List.Sublist.refl _, (List.append_nil _).symm⟩
  | cons m ms ih =>
    have hadded := submissions_emit (hname m (List.mem_cons_self ..) s.cache hs)
    have hnext : P (s.emit config m).2.cache := by
      rw [cache_emit]
      exact hP m (List.mem_cons_self ..) _ hs
    rw [emitAll]
    rcases hemit : s.emit config m with ⟨_ | _, s'⟩
    · rw [hemit] at hadded
      rcases hadded with hone | hnone
      · exact ⟨[m], List.singleton_sublist.mpr (List.mem_cons_self ..), hone⟩
      · exact ⟨[], List.nil_sublist _, hnone.trans (List.append_nil _).symm⟩
    · rw [hemit] at hadded hnext
      obtain ⟨taken, htaken, hlog⟩ := ih (fun m hm => hP m (List.mem_cons_of_mem _ hm))
        (fun m hm => hname m (List.mem_cons_of_mem _ hm)) hnext
      dsimp only at hadded hlog ⊢
      rcases hadded with hone | hnone
      · refine ⟨m :: taken, htaken.cons_cons m, ?_⟩
        rw [hlog, hone, List.append_assoc, List.singleton_append, List.map_cons]
      · refine ⟨taken, htaken.cons m, ?_⟩
        rw [hlog, hnone]

end Emission

namespace Pass

variable {H : Type} [Host H]

/-- Before a pass is finished, nothing is submitted. -/
theorem submissions_gatheringLog (config : Configuration) (cs : List Candidate) :
    submissions (gatheringLog config cs) = [] := by
  have hverdicts : ∀ event ∈ (begun config none).visitLog cs, event.submission? = none := by
    intro event hevent
    rcases List.mem_append.mp hevent with hevent | hevent
    · split at hevent
      · cases hevent
      · rw [begun, enteringEvents, List.mem_singleton] at hevent
        rw [hevent]
        rfl
    · obtain ⟨c, -, hevent⟩ := List.mem_flatMap.mp hevent
      obtain ⟨e, -, rfl⟩ := List.mem_map.mp hevent
      rw [verdict]
      cases rejection? c e <;> rfl
  exact List.filterMap_eq_nil_iff.mpr (List.forall_mem_cons.mpr ⟨rfl, hverdicts⟩)

/-- What a run submits is what it emits. -/
theorem submissions_run {config : Configuration} {cache : Option UnitCache} {h h' : H}
    (hd : declareMarkers Engine.all h = (.ok (), h')) :
    submissions ((fresh config cache).run h).log =
      submissions (((gathered config cache (offered h)).emission h').emitAll config
        ((offered h).flatMap (matchesOf config))).2.log := by
  have hclosing : submissions [closing] = [] := rfl
  rw [run_fresh_of_ok config cache hd, finish_eq (finish_allowedIn_gathered ..), found_gathered]
  dsimp only
  rw [submissions_append, submissions_gatheringLog, log_conclude, submissions_append, hclosing,
    List.nil_append, List.append_nil]
  rfl

end Pass

end DataContract
