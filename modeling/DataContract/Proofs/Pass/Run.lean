import DataContract.Proofs.Pass.Delivery

/-!
# What a whole run amounts to

`Pass.run` is put together from three operations, each of which asks the state of the pass whether
it is allowed.  In a whole run the answer is always yes, so what remains can be written down.

* `visitAll_eq` --- visiting candidates collects their matches, counts them, and leaves the host
  alone.
* `finish_eq` --- finishing emits what has been found, and concludes with a sweep of the cache if
  the host has taken everything.
* `run_fresh_of_ok` and `run_fresh_of_error` --- a run declares the markers and then finishes a pass
  that has collected what the host offers, unless the host has refused a declaration.
* `emitted_of_ok` --- so if a run ends well, the host has taken everything.

`Pass.offered` names what the host offers: its candidates *after* the declarations, since that is
when a run asks for them.
-/

namespace DataContract

open Declaration

namespace Pass

variable {H : Type}

/-! ## Visiting -/

/-- The pass when it has visited candidates. -/
def collect (p : Pass) (cs : List Candidate) : Pass :=
  { p with
    state := if cs.isEmpty then p.state else .collecting
    found := p.found ++ cs.flatMap (matchesOf p.configuration)
    visited := p.visited + cs.length }

/-- The events of visiting candidates. -/
def visitLog (p : Pass) (cs : List Candidate) : Log :=
  (if cs.isEmpty then [] else enteringEvents p.state) ++
    cs.flatMap fun c => p.configuration.engines.map (verdict c)

@[simp] theorem collect_nil (p : Pass) : p.collect [] = p := by
  simp [collect]

/-- Visiting one candidate collects it. -/
theorem visit_eq {p : Pass} (hp : PassOperation.visit.allowedIn p.state = true) (c : Candidate)
    (h : H) : p.visit c h = ⟨.ok (), p.collect [c], h, p.visitLog [c]⟩ := by
  rw [visit, if_pos hp]
  simp [collect, visitLog]

/-- A pass that has visited a candidate may visit another. -/
theorem visit_allowedIn_collect {p : Pass} (hp : PassOperation.visit.allowedIn p.state = true)
    (cs : List Candidate) : PassOperation.visit.allowedIn (p.collect cs).state = true := by
  cases cs with
  | nil => rwa [collect_nil]
  | cons c cs => rfl

/-- A pass that may visit may also finish. -/
theorem finish_allowedIn_of_visit {s : PassState} (hs : PassOperation.visit.allowedIn s = true) :
    PassOperation.finish.allowedIn s = true := by
  revert hs
  cases s <;> decide

theorem collect_cons (p : Pass) (c : Candidate) (cs : List Candidate) :
    (p.collect [c]).collect cs = p.collect (c :: cs) := by
  cases cs with
  | nil => rw [collect_nil]
  | cons d cs =>
    simp [collect, List.append_assoc]
    omega

/-- **Visiting candidates one after the other** collects their matches in order. -/
theorem visitAll_eq {p : Pass} (hp : PassOperation.visit.allowedIn p.state = true) (h : H)
    (cs : List Candidate) :
    p.visitAll h cs = ⟨.ok (), p.collect cs, h, p.visitLog cs⟩ := by
  induction cs generalizing p with
  | nil => simp [visitAll, visitLog]
  | cons c cs ih =>
    have hlog : p.visitLog [c] ++ (p.collect [c]).visitLog cs = p.visitLog (c :: cs) := by
      cases cs <;> simp [visitLog, collect, enteringEvents]
    rw [visitAll, visit_eq hp, Outcome.andThen]
    dsimp only
    rw [ih (visit_allowedIn_collect hp [c]), collect_cons, hlog]

/-! ## A whole run -/

variable [Host H]

/-- The candidates that a host offers to a run. -/
def offered (h : H) : List Candidate := Host.candidates (declareMarkers Engine.all h).2

/-- A pass that has just been started. -/
def begun (configuration : Configuration) (cache : Option UnitCache) : Pass :=
  { fresh configuration cache with state := .initialized }

/-- A pass that has visited what a host offers. -/
def gathered (configuration : Configuration) (cache : Option UnitCache) (cs : List Candidate) :
    Pass :=
  (begun configuration cache).collect cs

/-- The events before a pass is finished. -/
def gatheringLog (configuration : Configuration) (cs : List Candidate) : Log :=
  .stateChanged .idle .initialized :: (begun configuration none).visitLog cs

theorem start_allowedIn_fresh (configuration : Configuration) (cache : Option UnitCache) :
    PassOperation.start.allowedIn (fresh configuration cache).state = true := rfl

/-- **A run whose markers have been declared** finishes what the host offers. -/
theorem run_fresh_of_ok (configuration : Configuration) (cache : Option UnitCache) {h h' : H}
    (hd : declareMarkers Engine.all h = (.ok (), h')) :
    (fresh configuration cache).run h =
      let o := (gathered configuration cache (offered h)).finish h'
      { o with log := gatheringLog configuration (offered h) ++ o.log } := by
  have hstart : (fresh configuration cache).start h =
      ⟨.ok (), begun configuration cache, h', [.stateChanged .idle .initialized]⟩ := by
    rw [start, if_pos (start_allowedIn_fresh ..), hd]
    rfl
  have hoffered : offered h = Host.candidates h' := by rw [offered, hd]
  rw [run, hstart, Outcome.andThen, hoffered]
  dsimp only
  rw [visitAll_eq rfl, Outcome.andThen]
  simp [gathered, gatheringLog, visitLog, begun, fresh]

/-- **A run whose markers the host has refused** ends there, and the pass is as it was. -/
theorem run_fresh_of_error (configuration : Configuration) (cache : Option UnitCache) {h h' : H}
    {error : HostError} (hd : declareMarkers Engine.all h = (.error error, h')) :
    (fresh configuration cache).run h =
      ⟨.error (.host error), fresh configuration cache, h', []⟩ := by
  have hstart : (fresh configuration cache).start h =
      ⟨.error (.host error), fresh configuration cache, h', []⟩ := by
    rw [start, if_pos (start_allowedIn_fresh ..), hd]
  rw [run, hstart, Outcome.andThen]

/-- How a pass ends when its matches have been emitted. -/
def conclude (p : Pass) : Except HostError Unit × Emission H → Outcome H Report
  | (.ok (), s) =>
    ⟨.ok s.sweep.report, p.reset s.sweep.cache, s.sweep.host, s.sweep.log ++ [closing]⟩
  | (.error error, s) => ⟨.error (.host error), p.reset s.cache, s.host, s.log ++ [closing]⟩

/-- **Finishing** emits what has been found and concludes. -/
theorem finish_eq {p : Pass} (hp : PassOperation.finish.allowedIn p.state = true) (h : H) :
    p.finish h = p.conclude ((p.emission h).emitAll p.configuration p.found) := by
  rw [finish, if_pos hp]
  rcases (p.emission h).emitAll p.configuration p.found with ⟨_ | _, s⟩ <;> rfl

omit [Host H] in
/-- Concluding gives nothing to the host. -/
@[simp] theorem host_conclude (p : Pass) (emitted : Except HostError Unit × Emission H) :
    (p.conclude emitted).host = emitted.2.host := by
  rcases emitted with ⟨_ | _, s⟩
  · rfl
  · exact Emission.host_sweep s

omit [Host H] in
/-- Concluding logs one event. -/
@[simp] theorem log_conclude (p : Pass) (emitted : Except HostError Unit × Emission H) :
    (p.conclude emitted).log = emitted.2.log ++ [closing] := by
  rcases emitted with ⟨_ | _, s⟩
  · rfl
  · show s.sweep.log ++ [closing] = s.log ++ [closing]
    rw [Emission.log_sweep]

theorem finish_allowedIn_gathered (configuration : Configuration) (cache : Option UnitCache)
    (cs : List Candidate) :
    PassOperation.finish.allowedIn (gathered configuration cache cs).state = true :=
  finish_allowedIn_of_visit (visit_allowedIn_collect rfl cs)

theorem found_gathered (configuration : Configuration) (cache : Option UnitCache)
    (cs : List Candidate) :
    (gathered configuration cache cs).found = cs.flatMap (matchesOf configuration) := by
  simp [gathered, collect, begun, fresh]

/-- **A run that ends well** has declared the markers, emitted every match and swept the cache. -/
theorem emitted_of_ok {configuration : Configuration} {cache : Option UnitCache} {h : H}
    {report : Report} (hended : ((fresh configuration cache).run h).result = .ok report) :
    ∃ h' s, declareMarkers Engine.all h = (.ok (), h') ∧
      ((gathered configuration cache (offered h)).emission h').emitAll configuration
        ((offered h).flatMap (matchesOf configuration)) = (.ok (), s) ∧
      s.sweep.report = report ∧
      (fresh configuration cache).run h =
        ⟨.ok report, fresh configuration s.sweep.cache, s.sweep.host,
          gatheringLog configuration (offered h) ++ (s.sweep.log ++ [closing])⟩ := by
  rcases hd : declareMarkers Engine.all h with ⟨refusal | _, h'⟩
  · rw [run_fresh_of_error configuration cache hd] at hended
    cases hended
  · have hrun : (fresh configuration cache).run h =
        let o := (gathered configuration cache (offered h)).conclude
          (((gathered configuration cache (offered h)).emission h').emitAll configuration
            ((offered h).flatMap (matchesOf configuration)))
        { o with log := gatheringLog configuration (offered h) ++ o.log } := by
      rw [run_fresh_of_ok configuration cache hd, finish_eq (finish_allowedIn_gathered ..),
        found_gathered]
      rfl
    rcases hemit : ((gathered configuration cache (offered h)).emission h').emitAll configuration
      ((offered h).flatMap (matchesOf configuration)) with ⟨refusal | _, s⟩
    · rw [hrun, hemit] at hended
      cases hended
    · rw [hemit] at hrun
      rw [hrun] at hended
      obtain rfl : s.sweep.report = report := Except.ok.inj hended
      exact ⟨h', s, rfl, hemit, rfl, hrun⟩

/-- A match of a candidate is that candidate with one of the enabled engines. -/
theorem mem_matchesOf {configuration : Configuration} {c : Candidate} {m : Match} :
    m ∈ matchesOf configuration c ↔
      m.candidate = c ∧ m.engine ∈ configuration.engines ∧ eligible c m.engine = true := by
  obtain ⟨d, e⟩ := m
  simp only [matchesOf, List.mem_map, List.mem_filter, Match.mk.injEq]
  constructor
  · rintro ⟨f, ⟨hf, he⟩, rfl, rfl⟩
    exact ⟨rfl, hf, he⟩
  · rintro ⟨rfl, hf, he⟩
    exact ⟨e, ⟨hf, he⟩, rfl, rfl⟩

end Pass

end DataContract
