import DataContract.Pass

/-!
# Delivery knows nothing of the cache

`Emission.emit` produces a unit and delivers it.  The two halves are kept apart here.

* The cache is only touched by the first half (`cache_emit`).
* What the host and the report get is only decided by the second, from the result of the first.
  `Emission.Alike` relates two emissions that have done the same so far as anyone but the cache is
  concerned, and `Alike.emit` says that they stay so if what is produced for the match is the same.

The number of cache hits and of evicted entries is about the cache, so `Report.essence` leaves them
out.
-/

namespace DataContract

open Declaration

/-- A report without what it says about the cache. -/
def Report.essence (r : Report) : Report := { r with cacheHits := 0, evicted := 0 }

theorem Report.essence_eq_iff {r t : Report} :
    r.essence = t.essence ↔ r.visited = t.visited ∧ r.matched = t.matched ∧
      r.submitted = t.submitted ∧ r.diagnostics = t.diagnostics := by
  simp [essence]

/-- Without a cache a match produces what is generated for it. -/
theorem Match.produce_none_result (m : Match) (config : Configuration) :
    (m.produce config none).result = generate m.candidate m.engine config :=
  m.generateLogged_fst config

namespace Emission

variable {H : Type} [Host H]

/-! ## The cache -/

@[simp] theorem cache_diagnoseAll (s : Emission H) (ds : Diagnostics) :
    (s.diagnoseAll ds).cache = s.cache := by
  induction ds generalizing s with
  | nil => rfl
  | cons d ds ih => exact ih (s.diagnose d)

@[simp] theorem cache_submit (s : Emission H) (e : Engine) (u : GeneratedUnit) :
    (s.submit e u).2.cache = s.cache := by
  rw [submit]
  rcases Host.submit u s.host with ⟨_ | _, _⟩ <;> rfl

/-- Delivery leaves the cache alone. -/
@[simp] theorem cache_deliver (s : Emission H) (m : Match)
    (result : Except GenerationError Generated) : (s.deliver m result).2.cache = s.cache := by
  cases result with
  | ok generated => rw [deliver, cache_submit, cache_diagnoseAll]
  | error error => rfl

/-- Emission leaves behind the cache that production has left behind. -/
theorem cache_emit (s : Emission H) (config : Configuration) (m : Match) :
    (s.emit config m).2.cache = (m.produce config s.cache).cache := by
  rw [emit, cache_deliver]
  rfl

/-- What the emission of every match preserves holds at the end of emission. -/
theorem emitAll_preserves {I : Emission H → Prop} {config : Configuration} {ms : List Match}
    (hI : ∀ m ∈ ms, ∀ s, I s → I (s.emit config m).2) {s : Emission H} (hs : I s) :
    I (emitAll config ms s).2 := by
  induction ms generalizing s with
  | nil => exact hs
  | cons m ms ih =>
    have hnext := hI m (List.mem_cons_self ..) s hs
    rw [emitAll]
    rcases hemit : s.emit config m with ⟨_ | _, s'⟩
    · rwa [hemit] at hnext
    · rw [hemit] at hnext
      exact ih (fun m hm => hI m (List.mem_cons_of_mem _ hm)) hnext

/-- What the production of every match preserves of the cache holds at the end of emission. -/
theorem cache_emitAll {P : Option UnitCache → Prop} {config : Configuration} {ms : List Match}
    (hP : ∀ m ∈ ms, ∀ cache, P cache → P (m.produce config cache).cache) {s : Emission H}
    (hs : P s.cache) : P (emitAll config ms s).2.cache := by
  refine emitAll_preserves (I := fun s => P s.cache) (fun m hm s hs => ?_) hs
  rw [cache_emit]
  exact hP m hm _ hs

omit [Host H] in
/-- Sweeping an emission sweeps its cache. -/
theorem cache_sweep (s : Emission H) : s.sweep.cache = s.cache.map UnitCache.sweep := by
  rw [sweep]
  cases hs : s.cache with
  | none => exact hs
  | some cache => rfl

/-! ## The host and the report -/

/-- Emissions that have given the same to the host, and report the same but for the cache. -/
structure Alike (s u : Emission H) : Prop where
  host : s.host = u.host
  report : s.report.essence = u.report.essence

theorem Alike.diagnose {s u : Emission H} (h : Alike s u) (d : Diagnostic) :
    Alike (s.diagnose d) (u.diagnose d) := by
  obtain ⟨hvisited, hmatched, hsubmitted, hdiagnostics⟩ := Report.essence_eq_iff.mp h.report
  refine ⟨?_, Report.essence_eq_iff.mpr ⟨hvisited, hmatched, hsubmitted, ?_⟩⟩
  · show Host.report d s.host = Host.report d u.host
    rw [h.host]
  · show s.report.diagnostics ++ [d] = u.report.diagnostics ++ [d]
    rw [hdiagnostics]

theorem Alike.diagnoseAll {s u : Emission H} (h : Alike s u) (ds : Diagnostics) :
    Alike (s.diagnoseAll ds) (u.diagnoseAll ds) := by
  induction ds generalizing s u with
  | nil => exact h
  | cons d ds ih => exact ih (h.diagnose d)

theorem Alike.submit {s u : Emission H} (h : Alike s u) (e : Engine) (unit : GeneratedUnit) :
    (s.submit e unit).1 = (u.submit e unit).1 ∧ Alike (s.submit e unit).2 (u.submit e unit).2 := by
  obtain ⟨hvisited, hmatched, hsubmitted, hdiagnostics⟩ := Report.essence_eq_iff.mp h.report
  rw [Emission.submit, Emission.submit, h.host]
  rcases Host.submit unit u.host with ⟨_ | _, host⟩
  · exact ⟨rfl, rfl, h.report⟩
  · refine ⟨rfl, rfl, Report.essence_eq_iff.mpr ⟨hvisited, hmatched, ?_, hdiagnostics⟩⟩
    show s.report.submitted ++ [unit.name] = u.report.submitted ++ [unit.name]
    rw [hsubmitted]

/-- The same delivery keeps emissions alike, and the host takes it from both or from neither. -/
theorem Alike.deliver {s u : Emission H} (h : Alike s u) (m : Match)
    (result : Except GenerationError Generated) :
    (s.deliver m result).1 = (u.deliver m result).1 ∧
      Alike (s.deliver m result).2 (u.deliver m result).2 := by
  cases result with
  | ok generated => exact (h.diagnoseAll generated.warnings).submit m.engine generated.unit
  | error error => exact ⟨rfl, h.diagnose (error.diagnostic m.candidate.target)⟩

omit [Host H] in
/-- Sweeping gives nothing to the host. -/
@[simp] theorem host_sweep (s : Emission H) : s.sweep.host = s.host := by
  rw [sweep]
  cases s.cache <;> rfl

omit [Host H] in
/-- Sweeping logs nothing. -/
@[simp] theorem log_sweep (s : Emission H) : s.sweep.log = s.log := by
  rw [sweep]
  cases s.cache <;> rfl

omit [Host H] in
/-- Sweeping changes the report only in what it says about the cache. -/
@[simp] theorem essence_sweep (s : Emission H) :
    s.sweep.report.essence = s.report.essence := by
  rw [sweep]
  cases s.cache <;> rfl

omit [Host H] in
theorem Alike.sweep {s u : Emission H} (h : Alike s u) : Alike s.sweep u.sweep := by
  refine ⟨?_, ?_⟩
  · rw [host_sweep, host_sweep, h.host]
  · rw [essence_sweep, essence_sweep, h.report]

/-- **Emission only depends on what is produced**, so far as anyone but the cache is concerned. -/
theorem Alike.emit {s u : Emission H} (h : Alike s u) {config : Configuration} {m : Match}
    (hresult : (m.produce config s.cache).result = (m.produce config u.cache).result) :
    (s.emit config m).1 = (u.emit config m).1 ∧
      Alike (s.emit config m).2 (u.emit config m).2 := by
  have hrecord : Alike (s.record (m.produce config s.cache)) (u.record (m.produce config u.cache)) :=
    ⟨h.host, h.report⟩
  rw [Emission.emit, Emission.emit, hresult]
  exact hrecord.deliver m _

end Emission

end DataContract
