import DataContract.Generator
import DataContract.Proofs.Pass.Refusal
import DataContract.Proofs.Pass.Submission

/-!
# One story told three times

What happens in a run is told to the host, in the report and in the log.  The host is given units
and diagnostics; the report lists them, and counts; the log has an event for each of them, and
more.  The three are written at different places, some of them in the middle of emission.

* `Story` says what it means that they agree.  The units and the diagnostics that the log tells of
  are those that the host has accepted, in the same order and mixed in the same way
  (`Story.news`), the events are as many as the report counts, and the changes of state in the log
  lead from one to the next along `PassState.path`.
* `Emission.Tells` is the part of it that holds in the middle of emission.  Each of the three
  steps that emission is made of preserves it.
* `Generator.run_story` --- so a run that ends well has told one story, whatever was in the cache.

What the host has accepted is what a `Recorder` notes down.
-/

namespace DataContract

open Declaration

/-! ## What events tell -/

namespace Event

/-- Whether an event tells that a candidate is eligible for an engine. -/
def isMatched : Event → Bool
  | matched .. => true
  | _ => false

/-- Whether an event tells that a candidate is not eligible for an engine. -/
def isSkipped : Event → Bool
  | skipped .. => true
  | _ => false

/-- Whether an event tells that a unit comes from the cache. -/
def isHit : Event → Bool
  | cacheHit .. => true
  | _ => false

/-- The diagnostic that an event tells of, be it a warning or an error. -/
def finding? : Event → Option Diagnostic
  | warned d => some d
  | candidateSkipped d => some d
  | _ => none

/-- The change of state that an event tells of. -/
def transition? : Event → Option (PassState × PassState)
  | stateChanged before after => some (before, after)
  | _ => none

/-- The name of the unit, or the diagnostic, that an event tells of. -/
def news? : Event → Option (UnitName ⊕ Diagnostic)
  | unitSubmitted unit _ => some (.inl unit)
  | warned d => some (.inr d)
  | candidateSkipped d => some (.inr d)
  | _ => none

end Event

/-- The name of the unit, or the diagnostic, that a host is given. -/
def Delivery.news? : Delivery → Option (UnitName ⊕ Diagnostic)
  | unit u => some (.inl u.name)
  | diagnostic d => some (.inr d)
  | marker _ => none

/-- The states that a run goes through. -/
def PassState.path (visited : Nat) : List PassState :=
  [idle, initialized] ++ (if visited = 0 then [] else [collecting]) ++ [emitting, idle]

/-- **The log, the host and the report tell the same story.** -/
structure Story (config : Configuration) (log : Log) (received : List Delivery) (report : Report) :
    Prop where
  /-- There is an event for every match. -/
  matched : log.countP Event.isMatched = report.matched
  /-- There is an event for every visited candidate and every enabled engine. -/
  considered : log.countP Event.isMatched + log.countP Event.isSkipped =
    report.visited * config.engines.length
  /-- There is an event for every unit from the cache. -/
  hits : log.countP Event.isHit = report.cacheHits
  /-- The log and the report tell of the same units. -/
  submitted : submissions log = report.submitted
  /-- The host has been given these units. -/
  units : (unitsOf received).map (·.name) = report.submitted
  /-- The log and the report tell of the same diagnostics. -/
  findings : log.filterMap Event.finding? = report.diagnostics
  /-- The host has been given these diagnostics. -/
  diagnostics : findingsOf received = report.diagnostics
  /-- The log tells of units and diagnostics in the order in which the host has been given them. -/
  news : log.filterMap Event.news? = received.filterMap Delivery.news?
  /-- The changes of state lead from one to the next. -/
  states : log.filterMap Event.transition? =
    (PassState.path report.visited).zip (PassState.path report.visited).tail

/-! ## News -/

/-- The units that a log tells of are among its news. -/
theorem submissions_eq_news (log : Log) :
    submissions log = (log.filterMap Event.news?).filterMap Sum.getLeft? := by
  rw [submissions, List.filterMap_filterMap]
  congr 1
  funext event
  cases event <;> rfl

/-- The diagnostics that a log tells of are among its news. -/
theorem findings_eq_news (log : Log) :
    log.filterMap Event.finding? = (log.filterMap Event.news?).filterMap Sum.getRight? := by
  rw [List.filterMap_filterMap]
  congr 1
  funext event
  cases event <;> rfl

/-- The names of the units that a host is given are among its news. -/
theorem names_unitsOf_eq_news (ds : List Delivery) :
    (unitsOf ds).map (·.name) = (ds.filterMap Delivery.news?).filterMap Sum.getLeft? := by
  rw [unitsOf, List.map_filterMap, List.filterMap_filterMap]
  congr 1
  funext d
  cases d <;> rfl

/-- The diagnostics that a host is given are among its news. -/
theorem findingsOf_eq_news (ds : List Delivery) :
    findingsOf ds = (ds.filterMap Delivery.news?).filterMap Sum.getRight? := by
  rw [findingsOf, List.filterMap_filterMap]
  congr 1
  funext d
  cases d <;> rfl

/-! ## Emission -/

/-- The log of a production has one event, if any: that the unit comes from the cache, or that the
marker has been resolved. -/
theorem Match.log_produce (m : Match) (config : Configuration) (cache : Option UnitCache) :
    ((m.produce config cache).hit = true ∧
      (m.produce config cache).log = [.cacheHit m.candidate.name m.engine]) ∨
    ((m.produce config cache).hit = false ∧ ((m.produce config cache).log = [] ∨
      ∃ requested provider, (m.produce config cache).log =
        [.settingsResolved m.candidate.name m.engine requested provider])) := by
  have hlogged : (m.generateLogged config).2 = [] ∨ ∃ requested provider,
      (m.generateLogged config).2 =
        [.settingsResolved m.candidate.name m.engine requested provider] := by
    rw [generateLogged]
    cases resolve m.candidate m.engine with
    | error error => exact Or.inl rfl
    | ok r => exact Or.inr ⟨_, _, rfl⟩
  cases cache with
  | none => exact Or.inr ⟨rfl, hlogged⟩
  | some cache =>
    rw [produce, produceCached]
    rcases cache.get? (m.key config) with ⟨_ | _, touched⟩
    · rcases hmade : m.generateLogged config with ⟨_ | _, log⟩ <;> rw [hmade] at hlogged <;>
        exact Or.inr ⟨rfl, hlogged⟩
    · exact Or.inl ⟨rfl, rfl⟩

namespace Emission

variable {H : Type} [Host H]

/-- What the log, the host and the report have in common in the middle of emission.  Emission has
been entered from the given state, with so many candidates visited and so many matches found. -/
structure Tells (before : PassState) (visited found : Nat) (s : Emission (Recorder H)) : Prop where
  visited : s.report.visited = visited
  found : s.report.matched = found
  matched : s.log.countP Event.isMatched = 0
  skipped : s.log.countP Event.isSkipped = 0
  hits : s.log.countP Event.isHit = s.report.cacheHits
  submitted : s.report.submitted = (unitsOf s.host.accepted).map (·.name)
  diagnostics : s.report.diagnostics = findingsOf s.host.accepted
  news : s.log.filterMap Event.news? = s.host.accepted.filterMap Delivery.news?
  states : s.log.filterMap Event.transition? = [(before, .emitting)]

namespace Tells

variable {before : PassState} {visited found : Nat} {s : Emission (Recorder H)}

omit [Host H] in
/-- Events and deliveries that tell of the same keep the story together, if the report takes note of
them and the events are neither about eligibility nor about the state of the pass. -/
theorem step (hs : s.Tells before visited found) {u : Emission (Recorder H)} (events : Log)
    (ds : List Delivery) (hlog : u.log = s.log ++ events)
    (haccepted : u.host.accepted = s.host.accepted ++ ds)
    (hreport : u.report = { s.report.extend ds with
      cacheHits := s.report.cacheHits + events.countP Event.isHit })
    (hnews : events.filterMap Event.news? = ds.filterMap Delivery.news?)
    (hothers : ∀ event ∈ events,
      event.isMatched = false ∧ event.isSkipped = false ∧ event.transition? = none) :
    u.Tells before visited found where
  visited := by rw [hreport, ← hs.visited]; rfl
  found := by rw [hreport, ← hs.found]; rfl
  matched := by
    rw [hlog, List.countP_append, hs.matched, Nat.zero_add, List.countP_eq_zero]
    exact fun event hevent => Bool.eq_false_iff.mp (hothers event hevent).1
  skipped := by
    rw [hlog, List.countP_append, hs.skipped, Nat.zero_add, List.countP_eq_zero]
    exact fun event hevent => Bool.eq_false_iff.mp (hothers event hevent).2.1
  hits := by rw [hlog, List.countP_append, hs.hits, hreport]
  submitted := by rw [hreport, haccepted, unitsOf_append, List.map_append, ← hs.submitted]; rfl
  diagnostics := by
    rw [hreport, haccepted, findingsOf, List.filterMap_append]
    exact congrArg (· ++ findingsOf ds) hs.diagnostics
  news := by rw [hlog, haccepted, List.filterMap_append, List.filterMap_append, hs.news, hnews]
  states := by
    rw [hlog, List.filterMap_append, hs.states,
      List.filterMap_eq_nil_iff.mpr fun event hevent => (hothers event hevent).2.2]
    rfl

omit [Host H] in
/-- Production is only told to the log and the report. -/
theorem record (hs : s.Tells before visited found) (m : Match) (config : Configuration)
    (cache : Option UnitCache) :
    (s.record (m.produce config cache)).Tells before visited found := by
  rcases m.log_produce config cache with ⟨hhit, hlog⟩ | ⟨hhit, hlog | ⟨_, _, hlog⟩⟩
  · refine hs.step _ [] (congrArg (s.log ++ ·) hlog) (List.append_nil _).symm ?_ rfl ?_
    · simp [Emission.record, hhit, Event.isHit]
    · simp [Event.isMatched, Event.isSkipped, Event.transition?]
  · refine hs.step _ [] (congrArg (s.log ++ ·) hlog) (List.append_nil _).symm ?_ rfl ?_
    · simp [Emission.record, hhit]
    · simp
  · refine hs.step _ [] (congrArg (s.log ++ ·) hlog) (List.append_nil _).symm ?_ rfl ?_
    · simp [Emission.record, hhit, Event.isHit]
    · simp [Event.isMatched, Event.isSkipped, Event.transition?]

theorem diagnose (hs : s.Tells before visited found) (d : Diagnostic) :
    (s.diagnose d).Tells before visited found := by
  have hevent : diagnosticEvent d = .candidateSkipped d ∨ diagnosticEvent d = .warned d := by
    rw [diagnosticEvent]
    split
    · exact Or.inl rfl
    · exact Or.inr rfl
  refine hs.step [diagnosticEvent d] [.diagnostic d] rfl rfl ?_ ?_ ?_
  · rcases hevent with hevent | hevent <;>
      simp [hevent, Emission.diagnose, Report.extend, unitsOf, findingsOf, Delivery.unit?,
        Delivery.diagnostic?, Event.isHit]
  · rcases hevent with hevent | hevent <;> rw [hevent] <;> rfl
  · rcases hevent with hevent | hevent <;>
      simp [hevent, Event.isMatched, Event.isSkipped, Event.transition?]

theorem diagnoseAll (hs : s.Tells before visited found) (ds : Diagnostics) :
    (s.diagnoseAll ds).Tells before visited found := by
  induction ds generalizing s with
  | nil => exact hs
  | cons d ds ih => exact ih (hs.diagnose d)

/-- A unit that is refused is told to no one. -/
theorem submit (hs : s.Tells before visited found) (e : Engine) (unit : GeneratedUnit) :
    (s.submit e unit).2.Tells before visited found := by
  have hsubmit : Host.submit unit s.host = Recorder.take (.unit unit) s.host := rfl
  rw [Emission.submit, hsubmit, Recorder.take]
  rcases (Delivery.unit unit).offer s.host.host with ⟨error | _, h⟩
  · refine hs.step [] [] (List.append_nil _).symm (List.append_nil _).symm ?_ rfl ?_
    · simp
    · simp
  · refine hs.step [.unitSubmitted unit.name e] [.unit unit] rfl rfl ?_ rfl ?_
    · simp [Report.extend, unitsOf, findingsOf, Delivery.unit?, Delivery.diagnostic?, Event.isHit]
    · simp [Event.isMatched, Event.isSkipped, Event.transition?]

/-- **Emission of a match tells the same story everywhere.** -/
theorem emit (hs : s.Tells before visited found) (config : Configuration) (m : Match) :
    (s.emit config m).2.Tells before visited found := by
  have hrecord := hs.record m config s.cache
  rw [Emission.emit]
  cases (m.produce config s.cache).result with
  | ok generated => exact (hrecord.diagnoseAll generated.warnings).submit m.engine generated.unit
  | error error => exact hrecord.diagnose (error.diagnostic m.candidate.target)

theorem emitAll (hs : s.Tells before visited found) (config : Configuration) (ms : List Match) :
    (Emission.emitAll config ms s).2.Tells before visited found :=
  emitAll_preserves (I := Tells before visited found) (fun m _ _ hs => hs.emit config m) hs

omit [Host H] in
/-- Sweeping the cache changes nothing that is told to the host or the log. -/
theorem sweep (hs : s.Tells before visited found) : s.sweep.Tells before visited found := by
  rw [Emission.sweep]
  cases s.cache with
  | none => exact hs
  | some cache =>
    exact ⟨hs.visited, hs.found, hs.matched, hs.skipped, hs.hits, hs.submitted, hs.diagnostics,
      hs.news, hs.states⟩

end Tells

end Emission

/-! ## Before emission -/

namespace Pass

variable {H : Type} [Host H]

/-- A recorder takes note of the declarations that are accepted. -/
theorem accepted_declareMarkers {engines : List Engine} {r r' : Recorder H}
    (hd : declareMarkers engines r = (.ok (), r')) :
    r'.accepted = r.accepted ++ engines.map fun e => .marker e.markerDeclaration := by
  have hinner := Recorder.wraps_host.declareMarkers engines r
  rw [hd, declareMarkers_eq_offerAll] at hinner
  have hrecorded := Recorder.offerAll_of_ok hinner r.accepted
  rw [declareMarkers_eq_offerAll] at hd
  rw [hd] at hrecorded
  exact congrArg Recorder.accepted (Prod.mk.inj hrecorded).2

/-- The events of visiting candidates, but for the change of state. -/
def verdicts (config : Configuration) (cs : List Candidate) : Log :=
  cs.flatMap fun c => config.engines.map (verdict c)

/-- For every enabled engine there is one verdict on a candidate. -/
theorem countP_verdict (c : Candidate) (engines : List Engine) :
    (engines.map (verdict c)).countP Event.isMatched = (engines.filter (eligible c)).length ∧
      (engines.map (verdict c)).countP Event.isMatched +
        (engines.map (verdict c)).countP Event.isSkipped = engines.length := by
  have hmatched : Event.isMatched ∘ verdict c = eligible c := by
    funext e
    rw [Function.comp, verdict, eligible]
    cases rejection? c e <;> rfl
  have hskipped : Event.isSkipped ∘ verdict c = fun e => decide ¬(eligible c e = true) := by
    funext e
    rw [Function.comp, verdict, eligible]
    cases rejection? c e <;> rfl
  rw [List.countP_map, List.countP_map, hmatched, hskipped, List.countP_eq_length_filter,
    ← List.countP_eq_length_filter, ← List.length_eq_countP_add_countP]
  exact ⟨rfl, rfl⟩

/-- The verdicts tell of every match, and of every candidate and enabled engine. -/
theorem countP_verdicts (config : Configuration) (cs : List Candidate) :
    (verdicts config cs).countP Event.isMatched = (cs.flatMap (matchesOf config)).length ∧
      (verdicts config cs).countP Event.isMatched + (verdicts config cs).countP Event.isSkipped =
        cs.length * config.engines.length := by
  induction cs with
  | nil => simp [verdicts]
  | cons c cs ih =>
    obtain ⟨hmatched, hall⟩ := countP_verdict c config.engines
    rw [verdicts] at ih ⊢
    rw [List.flatMap_cons, List.flatMap_cons, List.countP_append, List.countP_append,
      List.length_append, List.length_cons, Nat.succ_mul, matchesOf, List.length_map]
    omega

/-- A verdict is only about eligibility. -/
theorem verdicts_others {config : Configuration} {cs : List Candidate} {event : Event}
    (hevent : event ∈ verdicts config cs) :
    event.isHit = false ∧ event.news? = none ∧ event.transition? = none := by
  obtain ⟨c, -, hc⟩ := List.mem_flatMap.mp hevent
  obtain ⟨e, -, rfl⟩ := List.mem_map.mp hc
  rw [verdict]
  cases rejection? c e <;> exact ⟨rfl, rfl, rfl⟩

/-- The changes of state before a pass is finished. -/
def gatheringChanges (cs : List Candidate) : Log :=
  .stateChanged .idle .initialized ::
    if cs.isEmpty then [] else [.stateChanged .initialized .collecting]

theorem gatheringLog_eq (config : Configuration) (cs : List Candidate) :
    gatheringLog config cs = gatheringChanges cs ++ verdicts config cs := rfl

/-- A change of state is about nothing else. -/
theorem gatheringChanges_others {cs : List Candidate} {event : Event}
    (hevent : event ∈ gatheringChanges cs) :
    event.isMatched = false ∧ event.isSkipped = false ∧ event.isHit = false ∧
      event.news? = none := by
  rw [gatheringChanges, List.mem_cons] at hevent
  rcases hevent with rfl | hevent
  · exact ⟨rfl, rfl, rfl, rfl⟩
  · split at hevent
    · cases hevent
    · rw [List.mem_singleton.mp hevent]
      exact ⟨rfl, rfl, rfl, rfl⟩

/-- Before a pass is finished, the log tells of eligibility and of nothing that is delivered. -/
theorem told_gatheringLog (config : Configuration) (cs : List Candidate) :
    (gatheringLog config cs).countP Event.isMatched = (verdicts config cs).countP Event.isMatched ∧
      (gatheringLog config cs).countP Event.isSkipped =
        (verdicts config cs).countP Event.isSkipped ∧
      (gatheringLog config cs).countP Event.isHit = 0 ∧
      (gatheringLog config cs).filterMap Event.news? = [] ∧
      (gatheringLog config cs).filterMap Event.transition? =
        (gatheringChanges cs).filterMap Event.transition? := by
  have hzero : ∀ {p : Event → Bool} {log : Log}, (∀ event ∈ log, p event = false) →
      log.countP p = 0 := fun h =>
    List.countP_eq_zero.mpr fun event hevent => Bool.eq_false_iff.mp (h event hevent)
  rw [gatheringLog_eq]
  simp only [List.countP_append, List.filterMap_append]
  refine ⟨?_, ?_, ?_, ?_, ?_⟩
  · rw [hzero fun event hevent => (gatheringChanges_others hevent).1, Nat.zero_add]
  · rw [hzero fun event hevent => (gatheringChanges_others hevent).2.1, Nat.zero_add]
  · rw [hzero fun event hevent => (gatheringChanges_others hevent).2.2.1,
      hzero fun event hevent => (verdicts_others hevent).1]
  · rw [List.filterMap_eq_nil_iff.mpr fun event hevent => (gatheringChanges_others hevent).2.2.2,
      List.filterMap_eq_nil_iff.mpr fun event hevent => (verdicts_others hevent).2.1,
      List.append_nil]
  · rw [List.filterMap_eq_nil_iff.mpr fun event hevent => (verdicts_others hevent).2.2,
      List.append_nil]

/-! ## A whole run -/

/-- Where a pass stands that has visited candidates. -/
theorem state_gathered (config : Configuration) (cache : Option UnitCache) (cs : List Candidate) :
    (gathered config cache cs).state = if cs.isEmpty then .initialized else .collecting := rfl

theorem visited_gathered (config : Configuration) (cache : Option UnitCache) (cs : List Candidate) :
    (gathered config cache cs).visited = cs.length := Nat.zero_add _

omit [Host H] in
/-- Emission begins with one story, if the host has been given nothing but declarations. -/
theorem tells_emission {p : Pass} {r : Recorder H} (hr : r.accepted = declarations) :
    (p.emission r).Tells p.state p.visited p.found.length where
  visited := rfl
  found := rfl
  matched := rfl
  skipped := rfl
  hits := rfl
  submitted := by
    show [] = (unitsOf r.accepted).map _
    rw [hr]
    rfl
  diagnostics := by
    show [] = findingsOf r.accepted
    rw [hr]
    rfl
  news := by
    show [] = r.accepted.filterMap _
    rw [hr]
    rfl
  states := rfl

omit [Host H] in
/-- What is told before, during and behind emission makes up one story. -/
theorem story_of_tells {config : Configuration} {cs : List Candidate} {s : Emission (Recorder H)}
    (hs : s.Tells (if cs.isEmpty then .initialized else .collecting) cs.length
      (cs.flatMap (matchesOf config)).length) :
    Story config (gatheringLog config cs ++ (s.log ++ [closing])) s.host.accepted s.report := by
  obtain ⟨hmatched, hconsidered⟩ := countP_verdicts config cs
  obtain ⟨hmatches, hskips, hhits, hnews, hstates⟩ := told_gatheringLog config cs
  have hall : (gatheringLog config cs ++ (s.log ++ [closing])).filterMap Event.news? =
      s.host.accepted.filterMap Delivery.news? := by
    rw [List.filterMap_append, List.filterMap_append, hnews, hs.news]
    exact List.append_nil _
  refine ⟨?_, ?_, ?_, ?_, hs.submitted.symm, ?_, hs.diagnostics.symm, hall, ?_⟩
  · rw [List.countP_append, List.countP_append, hmatches, hmatched, hs.matched, hs.found]
    rfl
  · simp only [List.countP_append, hmatches, hskips, hs.matched, hs.skipped, hs.visited]
    exact hconsidered
  · rw [List.countP_append, List.countP_append, hhits, hs.hits, Nat.zero_add]
    rfl
  · rw [submissions_eq_news, hall, ← names_unitsOf_eq_news, hs.submitted]
  · rw [findings_eq_news, hall, ← findingsOf_eq_news, hs.diagnostics]
  · rw [List.filterMap_append, List.filterMap_append, hstates, hs.states, hs.visited]
    cases cs <;> rfl

/-- A run that ends well tells one story. -/
theorem story_of_ok {config : Configuration} {cache : Option UnitCache} {h : H} {report : Report}
    (hok : ((fresh config cache).run h).result = .ok report) :
    Story config ((fresh config cache).run h).log (accepted config cache h) report := by
  rw [Recorder.run_host] at hok ⊢
  rw [accepted]
  change ((fresh config cache).run (Recorder.of h)).result = .ok report at hok
  show Story config ((fresh config cache).run (Recorder.of h)).log _ report
  obtain ⟨r, s, hd, hemit, rfl, hrun⟩ := emitted_of_ok hok
  have htells := (tells_emission (p := gathered config cache (offered (Recorder.of h)))
    (accepted_declareMarkers hd)).emitAll config
      ((offered (Recorder.of h)).flatMap (matchesOf config))
  rw [hemit, found_gathered, visited_gathered, state_gathered] at htells
  rw [hrun]
  exact story_of_tells htells.sweep

end Pass

namespace Generator

variable {H : Type} [Host H]

/-- What a host accepts in a run of a generator, in order. -/
def accepted (g : Generator) (h : H) : List Delivery := (g.run (Recorder.of h)).host.accepted

/-- **A run tells one story.**  If it ends well, whatever was in the cache, then the log, the
report and what the host has accepted agree; and over a host that accepts everything it does end
well. -/
theorem run_story (g : Generator) (h : H) :
    (∀ report, (g.run h).result = .ok report →
      Story g.configuration (g.run h).log (g.accepted h) report) ∧
    (Accepting h → ∃ report, (g.run h).result = .ok report) := by
  refine ⟨fun report hok => ?_, fun hall => ?_⟩
  · have hstory := Pass.story_of_ok (h := h) hok
    have hlog : (g.run h).log =
        ((Pass.fresh g.configuration g.passCache).run h).log ++ [report.completion] := by
      rw [Generator.run]
      change ((Pass.fresh g.configuration g.passCache).run h).result = .ok report at hok
      dsimp only
      rw [hok]
      rfl
    rw [hlog]
    exact
      { matched := by rw [List.countP_append, hstory.matched]; rfl
        considered := by
          rw [List.countP_append, List.countP_append, ← hstory.considered]
          rfl
        hits := by rw [List.countP_append, hstory.hits]; rfl
        submitted := by rw [submissions_append, hstory.submitted]; exact List.append_nil _
        units := hstory.units
        findings := by rw [List.filterMap_append, hstory.findings]; exact List.append_nil _
        diagnostics := hstory.diagnostics
        news := by rw [List.filterMap_append, hstory.news]; exact List.append_nil _
        states := by rw [List.filterMap_append, hstory.states]; exact List.append_nil _ }
  · obtain ⟨hresult, -⟩ := Pass.run_eq_offerAll g.configuration g.passCache h
    rw [hall.offerAll] at hresult
    cases hrun : ((Pass.fresh g.configuration g.passCache).run h).result with
    | ok report => exact ⟨report, hrun⟩
    | error error =>
      rw [hrun] at hresult
      cases hresult

/-- A host that offers a type twice whose unit comes with a warning. -/
def repeating : MemoryHost := .ofCandidates [Pass.wanting, Pass.wanting]

/-- The report of a run over it. -/
def repeatingReport : Report where
  visited := 2
  matched := 2
  submitted := [.flatten ⟨[⟨"Pair", 0⟩]⟩ .json, .flatten ⟨[⟨"Pair", 0⟩]⟩ .json]
  cacheHits := 1
  evicted := 0
  diagnostics := [Pass.wantingWarning, Pass.wantingWarning]

set_option maxRecDepth 4000 in
/-- The second unit comes from the cache.  The log tells so once, and it tells of both units and of
both warnings, as the host has been given them. -/
theorem run_story_repeating :
    Accepting repeating ∧ (standard.run repeating).result = .ok repeatingReport ∧
      (standard.run repeating).log.countP Event.isHit = 1 ∧
      (standard.run repeating).log.filterMap Event.news? =
        (standard.accepted repeating).filterMap Delivery.news? ∧
      findingsOf (standard.accepted repeating) = [Pass.wantingWarning, Pass.wantingWarning] ∧
      (standard.run repeating).log.filterMap Event.transition? =
        [(.idle, .initialized), (.initialized, .collecting), (.collecting, .emitting),
          (.emitting, .idle)] := by
  have hresult : (standard.run repeating).result = .ok repeatingReport := rfl
  have hstory := (run_story standard repeating).1 repeatingReport hresult
  exact ⟨accepting_memory _, hresult, hstory.hits, hstory.news, hstory.diagnostics, hstory.states⟩

end Generator

end DataContract
