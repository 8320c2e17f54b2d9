import DataContract.Cache
import DataContract.Pass.Event

/-!
# Emission

At the end of a pass everything that has matched is emitted, in the order in which it was found.
For each match a unit is produced, from the cache if it is there.  Then its warnings are reported
and it is submitted.  A match for which no unit can be produced is reported with one error, and
emission goes on.  A unit that the host refuses ends it.

## What is kept apart

`produce` makes the unit without a host, and `Emission.deliver` gives it to the host without knowing
where it came from.
-/

namespace DataContract

open Declaration

/-- A candidate and an engine that it is eligible for. -/
structure Match where
  candidate : Candidate
  engine : Engine
  deriving DecidableEq, Repr

/-- What a pass has done: how many candidates it has visited, how many matches there were, the units
submitted, how many of them came from the cache, how many cache entries were evicted, and the
diagnostics. -/
structure Report where
  visited : Nat
  matched : Nat
  submitted : List UnitName
  cacheHits : Nat
  evicted : Nat
  diagnostics : Diagnostics
  deriving DecidableEq, Repr

/-- The report before anything has been emitted. -/
def Report.start (visited matched : Nat) : Report := ⟨visited, matched, [], 0, 0, []⟩

/-! ## Producing a unit -/

/-- What has become of a match: the unit or the error, the cache behind it, whether the unit came
from the cache, and the events. -/
structure Production where
  result : Except GenerationError Generated
  cache : Option UnitCache
  hit : Bool
  log : Log

namespace Match

/-- Generates the unit for a match.  That the marker has been resolved is logged. -/
def generateLogged (m : Match) (config : Configuration) :
    Except GenerationError Generated × Log :=
  match resolve m.candidate m.engine with
  | .error error => (.error error, [])
  | .ok r =>
    (generateResolved m.candidate m.engine config r,
      [.settingsResolved m.candidate.name m.engine r.requested r.provider])

/-- Logging does not change what is generated. -/
theorem generateLogged_fst (m : Match) (config : Configuration) :
    (m.generateLogged config).1 = generate m.candidate m.engine config := by
  unfold generateLogged generate
  cases resolve m.candidate m.engine <;> rfl

/-- The cache key of a match. -/
def key (m : Match) (config : Configuration) : CacheKey := .of m.candidate m.engine config

/-- Produces the unit for a match with a cache. -/
def produceCached (m : Match) (config : Configuration) (cache : UnitCache) : Production :=
  match cache.get? (m.key config) with
  | (some generated, cache) =>
    ⟨.ok generated, some cache, true, [.cacheHit m.candidate.name m.engine]⟩
  | (none, cache) =>
    match m.generateLogged config with
    | (.ok generated, log) =>
      ⟨.ok generated, some (cache.insert (m.key config) generated), false, log⟩
    | (.error error, log) => ⟨.error error, some cache, false, log⟩

/-- Produces the unit for a match, with or without a cache. -/
def produce (m : Match) (config : Configuration) : Option UnitCache → Production
  | some cache => m.produceCached config cache
  | none =>
    let (result, log) := m.generateLogged config
    ⟨result, none, false, log⟩

end Match

/-! ## Delivering to the host -/

/-- Emission under way: the host, the cache, the report so far and the events so far. -/
structure Emission (H : Type) where
  host : H
  cache : Option UnitCache
  report : Report
  log : Log

namespace Emission

variable {H : Type} [Host H]

/-- The event for a diagnostic. -/
def diagnosticEvent (d : Diagnostic) : Event :=
  if d.isError then .candidateSkipped d else .warned d

/-- Gives a diagnostic to the host, the report and the log. -/
def diagnose (s : Emission H) (d : Diagnostic) : Emission H :=
  { s with
    host := Host.report d s.host
    report := { s.report with diagnostics := s.report.diagnostics ++ [d] }
    log := s.log ++ [diagnosticEvent d] }

/-- Gives several diagnostics to the host, the report and the log. -/
def diagnoseAll (s : Emission H) (ds : Diagnostics) : Emission H := ds.foldl diagnose s

/-- Submits a unit for an engine.  The report and the log only tell of a unit that the host has
taken. -/
def submit (s : Emission H) (engine : Engine) (unit : GeneratedUnit) :
    Except HostError Unit × Emission H :=
  match Host.submit unit s.host with
  | (.ok (), host) =>
    (.ok (),
      { s with
        host := host
        report := { s.report with submitted := s.report.submitted ++ [unit.name] }
        log := s.log ++ [.unitSubmitted unit.name engine] })
  | (.error error, host) => (.error error, { s with host := host })

/-- Delivers what has been produced for a match. -/
def deliver (s : Emission H) (m : Match) :
    Except GenerationError Generated → Except HostError Unit × Emission H
  | .ok generated => (s.diagnoseAll generated.warnings).submit m.engine generated.unit
  | .error error => (.ok (), s.diagnose (error.diagnostic m.candidate.target))

/-- Takes note of a production: its cache, its events, and whether it was a hit. -/
def record (s : Emission H) (made : Production) : Emission H :=
  { s with
    cache := made.cache
    report := { s.report with cacheHits := s.report.cacheHits + if made.hit then 1 else 0 }
    log := s.log ++ made.log }

/-- Emits one match. -/
def emit (s : Emission H) (config : Configuration) (m : Match) :
    Except HostError Unit × Emission H :=
  let made := m.produce config s.cache
  (s.record made).deliver m made.result

/-- Emits matches one after the other, up to the first unit that the host refuses. -/
def emitAll (config : Configuration) : List Match → Emission H → Except HostError Unit × Emission H
  | [], s => (.ok (), s)
  | m :: rest, s =>
    match s.emit config m with
    | (.ok (), s) => emitAll config rest s
    | (.error error, s) => (.error error, s)

/-- Evicts what the pass has not used from the cache, and reports how much that was. -/
def sweep (s : Emission H) : Emission H :=
  match s.cache with
  | none => s
  | some cache =>
    { s with
      cache := some cache.sweep
      report := { s.report with evicted := cache.stale } }

end Emission

end DataContract
