import DataContract.Proofs.Cache.Confusion

/-!
# What a pass computes

A pass fills an accumulator, walks over it with a host in hand, and reports through three channels.
Over a host that accepts everything, and without a cache, all of that comes to a function of the
candidates alone.  `reference` is this function: the pairs of a candidate and an enabled engine that
qualify, in the order of the candidates and then of the engines, each with what is delivered for it.

* `Delivery` is whatever a host is given, and `given` is the host behind a list of deliveries.  A
  host is `Accepting` if it takes whatever it is given, in whatever order.
* `Emission.delivered_emitAll` --- over such a host, emission amounts to the deliveries for its
  matches one after the other.  No match can tell what has become of the ones before it.
* `Pass.run_accepting` --- so a run amounts to the declarations of the markers, the deliveries of the
  reference, and a report of them.

The units and the diagnostics are two projections of the same deliveries (`unitsOf_reference`,
`findingsOf_reference`), and every pair has either one unit and warnings, or one error and nothing
else (`length_pairs`).  `Pass.run_eq_reference` puts all this together.
-/

namespace DataContract

open Declaration

/-! ## Deliveries -/

/-- Something that a pass gives to its host. -/
inductive Delivery
  | marker (d : Engine.MarkerDeclaration)
  | diagnostic (d : Diagnostic)
  | unit (u : GeneratedUnit)
  deriving DecidableEq, Repr

namespace Delivery

/-- The unit that is delivered. -/
def unit? : Delivery → Option GeneratedUnit
  | unit u => some u
  | _ => none

/-- The diagnostic that is delivered. -/
def diagnostic? : Delivery → Option Diagnostic
  | diagnostic d => some d
  | _ => none

/-- Gives a delivery to a host, which cannot refuse a diagnostic. -/
def offer {H : Type} [Host H] : Delivery → H → Except HostError Unit × H
  | marker d, h => Host.register d h
  | diagnostic d, h => (.ok (), Host.report d h)
  | unit u, h => Host.submit u h

end Delivery

/-- The units among deliveries. -/
def unitsOf (ds : List Delivery) : List GeneratedUnit := ds.filterMap Delivery.unit?

/-- The diagnostics among deliveries. -/
def findingsOf (ds : List Delivery) : Diagnostics := ds.filterMap Delivery.diagnostic?

/-- A report when deliveries have been made. -/
def Report.extend (r : Report) (ds : List Delivery) : Report :=
  { r with
    submitted := r.submitted ++ (unitsOf ds).map (·.name)
    diagnostics := r.diagnostics ++ findingsOf ds }

@[simp] theorem Report.extend_nil (r : Report) : r.extend [] = r := by
  simp [extend, unitsOf, findingsOf]

theorem Report.extend_append (r : Report) (ds es : List Delivery) :
    r.extend (ds ++ es) = (r.extend ds).extend es := by
  simp [extend, unitsOf, findingsOf]

section Hosts

variable {H : Type} [Host H]

/-- A host behind deliveries. -/
def given (h : H) (ds : List Delivery) : H := ds.foldl (fun h d => (d.offer h).2) h

theorem given_append (h : H) (ds es : List Delivery) : given h (ds ++ es) = given (given h ds) es :=
  List.foldl_append

/-- A host that takes everything, whatever it has been given before. -/
def Accepting (h : H) : Prop := ∀ ds (d : Delivery), (d.offer (given h ds)).1 = .ok ()

/-- What an accepting host has been given does not change its mind. -/
theorem Accepting.given {h : H} (hh : Accepting h) (ds : List Delivery) :
    Accepting (given h ds) := by
  intro es d
  rw [← given_append]
  exact hh (ds ++ es) d

theorem Accepting.offer {h : H} (hh : Accepting h) (d : Delivery) :
    d.offer h = (.ok (), DataContract.given h [d]) :=
  Prod.ext (hh [] d) rfl

/-- The declarations of all markers, as they are delivered. -/
def declarations : List Delivery := Engine.all.map fun e => .marker e.markerDeclaration

/-- An accepting host takes the declarations of the markers. -/
theorem Accepting.declareMarkers {h : H} (hh : Accepting h) (engines : List Engine) :
    Pass.declareMarkers engines h =
      (.ok (), DataContract.given h (engines.map fun e => .marker e.markerDeclaration)) := by
  induction engines generalizing h with
  | nil => rfl
  | cons e engines ih =>
    have hfirst := hh.offer (.marker e.markerDeclaration)
    change Host.register e.markerDeclaration h = _ at hfirst
    rw [Pass.declareMarkers, hfirst, List.map_cons, ← List.singleton_append, given_append]
    exact ih (hh.given _)

/-- A host in memory accepts everything. -/
theorem accepting_memory (h : MemoryHost) : Accepting h := by
  intro ds d
  cases d <;> rfl

/-- A host in memory keeps the units and the diagnostics that it is given, in order. -/
theorem kept_memory (h : MemoryHost) (ds : List Delivery) :
    (DataContract.given h ds).units = h.units ++ unitsOf ds ∧
      (DataContract.given h ds).diagnostics = h.diagnostics ++ findingsOf ds := by
  induction ds generalizing h with
  | nil => exact ⟨(List.append_nil _).symm, (List.append_nil _).symm⟩
  | cons d ds ih =>
    obtain ⟨hunits, hdiagnostics⟩ := ih (d.offer h).2
    refine ⟨Eq.trans hunits ?_, Eq.trans hdiagnostics ?_⟩
    · cases d with
      | marker d => rfl
      | diagnostic d => rfl
      | unit u => exact List.append_assoc h.units [u] (unitsOf ds)
    · cases d with
      | marker d => rfl
      | diagnostic d => exact List.append_assoc h.diagnostics [d] (findingsOf ds)
      | unit u => rfl

end Hosts

/-! ## The reference -/

/-- Whether a unit is to be generated for a candidate and an engine. -/
def qualifies (c : Candidate) (e : Engine) : Bool :=
  c.modifiers.isPartial && !c.modifiers.isStatic && c.hasAttribute e.markerPath &&
    c.hasAttribute Engine.serializableMarker

/-- A candidate qualifies if there is no reason to reject it. -/
theorem eligible_eq_qualifies (c : Candidate) (e : Engine) : eligible c e = qualifies c e := by
  rw [eligible, rejection?, qualifies]
  cases c.modifiers.isPartial <;> cases c.modifiers.isStatic <;>
    cases c.hasAttribute e.markerPath <;> cases c.hasAttribute Engine.serializableMarker <;> rfl

/-- The candidates with each enabled engine for which they qualify. -/
def pairs (config : Configuration) (cs : List Candidate) : List Match :=
  cs.flatMap fun c => (config.engines.filter (qualifies c)).map (⟨c, ·⟩)

/-- The pairs are what a pass finds. -/
theorem flatMap_matchesOf (config : Configuration) (cs : List Candidate) :
    cs.flatMap (Pass.matchesOf config) = pairs config cs := by
  rw [pairs]
  congr 1
  funext c
  rw [Pass.matchesOf, funext (eligible_eq_qualifies c)]

namespace Match

/-- The unit for a pair, if there is one. -/
def unit? (config : Configuration) (m : Match) : Option GeneratedUnit :=
  match generate m.candidate m.engine config with
  | .ok generated => some generated.unit
  | .error _ => none

/-- What there is to say about a pair: the warnings about its unit, or the one error. -/
def findings (config : Configuration) (m : Match) : Diagnostics :=
  match generate m.candidate m.engine config with
  | .ok generated => generated.warnings
  | .error error => [error.diagnostic m.candidate.target]

/-- What is delivered for a pair. -/
def deliveries (config : Configuration) (m : Match) : List Delivery :=
  (m.findings config).map .diagnostic ++ ((m.unit? config).map .unit).toList

@[simp] theorem unitsOf_deliveries (config : Configuration) (m : Match) :
    unitsOf (m.deliveries config) = (m.unit? config).toList := by
  rw [unitsOf, deliveries, List.filterMap_append, List.filterMap_map]
  cases m.unit? config <;> simp [Delivery.unit?, Function.comp_def]

@[simp] theorem findingsOf_deliveries (config : Configuration) (m : Match) :
    findingsOf (m.deliveries config) = m.findings config := by
  rw [findingsOf, deliveries, List.filterMap_append, List.filterMap_map]
  cases m.unit? config <;> simp [Delivery.diagnostic?, Function.comp_def]

end Match

/-- The units for candidates, in order. -/
def units (config : Configuration) (cs : List Candidate) : List GeneratedUnit :=
  (pairs config cs).filterMap (Match.unit? config)

/-- What there is to say about candidates, in order. -/
def findings (config : Configuration) (cs : List Candidate) : Diagnostics :=
  (pairs config cs).flatMap (Match.findings config)

/-- What is delivered for candidates, in order. -/
def reference (config : Configuration) (cs : List Candidate) : List Delivery :=
  (pairs config cs).flatMap (Match.deliveries config)

/-- What there is to report about candidates. -/
def referenceReport (config : Configuration) (cs : List Candidate) : Report where
  visited := cs.length
  matched := (pairs config cs).length
  submitted := (units config cs).map (·.name)
  cacheHits := 0
  evicted := 0
  diagnostics := findings config cs

theorem pairs_append (config : Configuration) (xs ys : List Candidate) :
    pairs config (xs ++ ys) = pairs config xs ++ pairs config ys :=
  List.flatMap_append

theorem units_append (config : Configuration) (xs ys : List Candidate) :
    units config (xs ++ ys) = units config xs ++ units config ys := by
  rw [units, pairs_append, List.filterMap_append, units, units]

theorem findings_append (config : Configuration) (xs ys : List Candidate) :
    findings config (xs ++ ys) = findings config xs ++ findings config ys := by
  rw [findings, pairs_append, List.flatMap_append, findings, findings]

theorem reference_append (config : Configuration) (xs ys : List Candidate) :
    reference config (xs ++ ys) = reference config xs ++ reference config ys := by
  rw [reference, pairs_append, List.flatMap_append, reference, reference]

/-- The units that are delivered are the units for the candidates. -/
theorem unitsOf_reference (config : Configuration) (cs : List Candidate) :
    unitsOf (reference config cs) = units config cs := by
  rw [reference, units, unitsOf, List.filterMap_flatMap, List.filterMap_eq_flatMap_toList]
  exact congrArg (List.flatMap · _) (funext (Match.unitsOf_deliveries config))

/-- The diagnostics that are delivered are what there is to say about the candidates. -/
theorem findingsOf_reference (config : Configuration) (cs : List Candidate) :
    findingsOf (reference config cs) = findings config cs := by
  rw [reference, findings, findingsOf, List.filterMap_flatMap]
  exact congrArg (List.flatMap · _) (funext (Match.findingsOf_deliveries config))

/-! ## Units and errors -/

/-- What is said about a unit that is generated is no error. -/
theorem errors_of_generate {c : Candidate} {e : Engine} {config : Configuration}
    {generated : Generated} (h : generate c e config = .ok generated) :
    generated.warnings.errors = [] := by
  obtain ⟨r, tree, -, hwarnings, -, -⟩ := steps_of_generate h
  rw [Diagnostics.errors, List.filter_eq_nil_iff]
  intro x hx
  obtain ⟨member, rfl⟩ := eq_warning_of_mem_unresolvedWarnings hwarnings hx
  exact Bool.false_ne_true

/-- **A pair has one unit or one error**, and not both. -/
theorem Match.one_unit_or_error (config : Configuration) (m : Match) :
    (m.unit? config).toList.length + (m.findings config).errors.length = 1 := by
  rw [unit?, findings]
  cases h : generate m.candidate m.engine config with
  | ok generated =>
    dsimp only
    rw [errors_of_generate h]
    rfl
  | error error => rfl

/-- The pairs are as many as the units and the errors together. -/
theorem length_pairs (config : Configuration) (cs : List Candidate) :
    (pairs config cs).length = (units config cs).length + (findings config cs).errors.length := by
  rw [units, findings]
  induction pairs config cs with
  | nil => rfl
  | cons m ms ih =>
    have hone := m.one_unit_or_error config
    rw [Diagnostics.errors] at ih hone ⊢
    rw [List.filterMap_eq_flatMap_toList] at ih ⊢
    rw [List.flatMap_cons, List.flatMap_cons, List.filter_append, List.length_append,
      List.length_append, List.length_cons, ih]
    omega

/-! ## Emission -/

namespace Emission

variable {H : Type} [Host H]

/-- Emission when deliveries have been made. -/
structure Delivered (s : Emission H) (ds : List Delivery) (u : Emission H) : Prop where
  host : u.host = given s.host ds
  report : u.report = s.report.extend ds
  cache : u.cache = s.cache

/-- Deliveries one after the other are all of them. -/
theorem Delivered.trans {s u v : Emission H} {ds es : List Delivery} (h : Delivered s ds u)
    (h' : Delivered u es v) : Delivered s (ds ++ es) v where
  host := by rw [h'.host, h.host, given_append]
  report := by rw [h'.report, h.report, Report.extend_append]
  cache := h'.cache.trans h.cache

/-- Diagnostics are delivered. -/
theorem delivered_diagnoseAll (s : Emission H) (ds : Diagnostics) :
    Delivered s (ds.map .diagnostic) (s.diagnoseAll ds) := by
  induction ds generalizing s with
  | nil => exact ⟨rfl, (Report.extend_nil _).symm, rfl⟩
  | cons d ds ih =>
    have hfirst : Delivered s [.diagnostic d] (s.diagnose d) :=
      ⟨rfl, by simp [diagnose, Report.extend, unitsOf, findingsOf, Delivery.unit?,
        Delivery.diagnostic?], rfl⟩
    exact hfirst.trans (ih (s.diagnose d))

/-- A unit is delivered to an accepting host. -/
theorem delivered_submit {s : Emission H} (hs : Accepting s.host) (e : Engine)
    (unit : GeneratedUnit) :
    (s.submit e unit).1 = .ok () ∧ Delivered s [.unit unit] (s.submit e unit).2 := by
  have hoffer := hs.offer (.unit unit)
  change Host.submit unit s.host = _ at hoffer
  rw [submit, hoffer]
  exact ⟨rfl, rfl, by simp [Report.extend, unitsOf, findingsOf, Delivery.unit?,
    Delivery.diagnostic?], rfl⟩

/-- **A match comes to its deliveries**, whatever has become of the matches before it. -/
theorem delivered_emit {s : Emission H} (hs : Accepting s.host) (hcache : s.cache = none)
    (config : Configuration) (m : Match) :
    (s.emit config m).1 = .ok () ∧ Delivered s (m.deliveries config) (s.emit config m).2 := by
  have hrecord : Delivered s [] (s.record (m.produce config s.cache)) := by
    rw [hcache]
    exact ⟨rfl, by simp [record, Match.produce], by rw [hcache]; rfl⟩
  rw [emit, Match.deliveries, Match.findings, Match.unit?, ← m.produce_none_result, ← hcache]
  cases (m.produce config s.cache).result with
  | ok generated =>
    have hfound := hrecord.trans (delivered_diagnoseAll _ generated.warnings)
    have haccepting : Accepting
        ((s.record (m.produce config s.cache)).diagnoseAll generated.warnings).host := by
      rw [hfound.host]
      exact hs.given _
    obtain ⟨hok, hunit⟩ := delivered_submit haccepting m.engine generated.unit
    exact ⟨hok, hfound.trans hunit⟩
  | error error => exact ⟨rfl, hrecord.trans (delivered_diagnoseAll _ [_])⟩

/-- **Emission comes to the deliveries of its matches** one after the other. -/
theorem delivered_emitAll (config : Configuration) (ms : List Match) {s : Emission H}
    (hs : Accepting s.host) (hcache : s.cache = none) :
    (emitAll config ms s).1 = .ok () ∧
      Delivered s (ms.flatMap (Match.deliveries config)) (emitAll config ms s).2 := by
  induction ms generalizing s with
  | nil => exact ⟨rfl, rfl, (Report.extend_nil _).symm, rfl⟩
  | cons m ms ih =>
    obtain ⟨hok, hfirst⟩ := delivered_emit hs hcache config m
    rw [emitAll]
    rcases hemit : s.emit config m with ⟨r, s'⟩
    rw [hemit] at hok hfirst
    dsimp only at hok hfirst
    subst hok
    have haccepting : Accepting s'.host := by
      rw [hfirst.host]
      exact hs.given _
    obtain ⟨hrest, hdelivered⟩ := ih haccepting (hfirst.cache.trans hcache)
    exact ⟨hrest, hfirst.trans hdelivered⟩

end Emission

/-! ## A whole run -/

namespace Pass

variable {H : Type} [Host H]

/-- A run over a host that accepts everything makes the deliveries of the reference, and reports
them. -/
theorem run_accepting {h : H} (hh : Accepting h) (config : Configuration) :
    ((fresh config none).run h).host = given h (declarations ++ reference config (offered h)) ∧
      ((fresh config none).run h).result = .ok (referenceReport config (offered h)) := by
  have hdeclared : declareMarkers Engine.all h = (.ok (), given h declarations) :=
    hh.declareMarkers Engine.all
  have hmatches : (gathered config none (offered h)).found = pairs config (offered h) := by
    rw [found_gathered, flatMap_matchesOf]
  have haccepting : Accepting ((gathered config none (offered h)).emission
      (given h declarations)).host := hh.given declarations
  obtain ⟨hok, hdelivered⟩ :=
    Emission.delivered_emitAll config (pairs config (offered h)) haccepting rfl
  rw [run_fresh_of_ok config none hdeclared, finish_eq (finish_allowedIn_gathered ..), hmatches]
  refine ⟨?_, ?_⟩
  · show (conclude _ (Emission.emitAll config _ _)).host = _
    rw [host_conclude, given_append]
    exact hdelivered.host
  · show (conclude _ (Emission.emitAll config _ _)).result = _
    rcases hemit : ((gathered config none (offered h)).emission (given h declarations)).emitAll config
      (pairs config (offered h)) with ⟨r, s⟩
    rw [hemit] at hok hdelivered
    dsimp only at hok hdelivered
    subst hok
    -- Without a cache there is nothing to sweep.
    have hsweep : s.sweep = s := by
      rw [Emission.sweep, hdelivered.cache]
      rfl
    show Except.ok s.sweep.report = _
    rw [hsweep, hdelivered.report]
    show Except.ok ((Report.start _ (gathered config none (offered h)).found.length).extend
      (reference config (offered h))) = _
    rw [hmatches, Report.extend, unitsOf_reference, findingsOf_reference]
    simp [Report.start, gathered, begun, fresh, collect, referenceReport]

/-- A run over candidates in memory leaves their units and what there is to say about them. -/
theorem kept_run_memory (config : Configuration) (cs : List Candidate) :
    ((fresh config none).run (MemoryHost.ofCandidates cs)).host.units = units config cs ∧
      ((fresh config none).run (MemoryHost.ofCandidates cs)).host.diagnostics =
        findings config cs := by
  obtain ⟨hhost, -⟩ := run_accepting (accepting_memory (.ofCandidates cs)) config
  obtain ⟨hunits, hdiagnostics⟩ := kept_memory (.ofCandidates cs)
    (declarations ++ reference config (offered (MemoryHost.ofCandidates cs)))
  rw [hhost, hunits, hdiagnostics, offered_memory]
  exact ⟨unitsOf_reference config cs, findingsOf_reference config cs⟩

/-- **A run computes its reference.**  Over a host that accepts everything, and without a cache, it
delivers the declarations of the markers and then what the reference says, and reports just that.
The units and the diagnostics that are delivered are those of the pairs, one unit or one error for
each.  So no candidate makes a difference to another: what a run over two lists of candidates, one
behind the other, leaves in the host is what it leaves for the first and then for the second. -/
theorem run_eq_reference {h : H} (hh : Accepting h) (config : Configuration) :
    ((fresh config none).run h).host = given h (declarations ++ reference config (offered h)) ∧
      ((fresh config none).run h).result = .ok (referenceReport config (offered h)) ∧
      (∀ cs, unitsOf (reference config cs) = units config cs ∧
        findingsOf (reference config cs) = findings config cs ∧
        (pairs config cs).length = (units config cs).length + (findings config cs).errors.length) ∧
      (∀ xs ys, reference config (xs ++ ys) = reference config xs ++ reference config ys) ∧
      ∀ xs ys,
        ((fresh config none).run (MemoryHost.ofCandidates (xs ++ ys))).host.units =
            ((fresh config none).run (MemoryHost.ofCandidates xs)).host.units ++
              ((fresh config none).run (MemoryHost.ofCandidates ys)).host.units ∧
          ((fresh config none).run (MemoryHost.ofCandidates (xs ++ ys))).host.diagnostics =
            ((fresh config none).run (MemoryHost.ofCandidates xs)).host.diagnostics ++
              ((fresh config none).run (MemoryHost.ofCandidates ys)).host.diagnostics := by
  obtain ⟨hhost, hresult⟩ := run_accepting hh config
  refine ⟨hhost, hresult, fun cs => ?_, reference_append config, fun xs ys => ?_⟩
  · exact ⟨unitsOf_reference config cs, findingsOf_reference config cs, length_pairs config cs⟩
  · obtain ⟨hunits, hdiagnostics⟩ := kept_run_memory config (xs ++ ys)
    obtain ⟨hunitsx, hdiagnosticsx⟩ := kept_run_memory config xs
    obtain ⟨hunitsy, hdiagnosticsy⟩ := kept_run_memory config ys
    rw [hunits, hunitsx, hunitsy, hdiagnostics, hdiagnosticsx, hdiagnosticsy]
    exact ⟨units_append config xs ys, findings_append config xs ys⟩

/-! ## A failure between two units -/

/-- A type on which the marker for JSON is used twice. -/
def twiceMarked : Candidate :=
  { plain .json [] with
    attributes := ⟨Engine.json.markerPath, [], ""⟩ :: (plain .json []).attributes }

/-- No unit is generated for it. -/
theorem generate_twiceMarked (config : Configuration) :
    generate twiceMarked .json config = .error (.ambiguousMarker .json 2) := by
  have hresolve : resolve twiceMarked .json = .error (.ambiguousMarker .json 2) := rfl
  rw [generate, hresolve]
  rfl

/-- The types before and behind it get theirs, and it gets one error. -/
theorem run_eq_reference_twiceMarked :
    Accepting (MemoryHost.ofCandidates [plain .json [], twiceMarked, plain .xml []]) ∧
      ((fresh .standard none).run
          (MemoryHost.ofCandidates [plain .json [], twiceMarked, plain .xml []])).result = .ok
        { visited := 3
          matched := 3
          submitted := [.flatten ⟨[⟨"Pair", 0⟩]⟩ .json, .flatten ⟨[⟨"Pair", 0⟩]⟩ .xml]
          cacheHits := 0
          evicted := 0
          diagnostics := [(GenerationError.ambiguousMarker .json 2).diagnostic "Pair"] } := by
  refine ⟨accepting_memory _, ?_⟩
  have hpairs : pairs .standard [plain .json [], twiceMarked, plain .xml []] =
      [⟨plain .json [], .json⟩, ⟨twiceMarked, .json⟩, ⟨plain .xml [], .xml⟩] := rfl
  obtain ⟨-, hresult, -, -, -⟩ := run_eq_reference
    (accepting_memory (.ofCandidates [plain .json [], twiceMarked, plain .xml []])) .standard
  rw [hresult, offered_memory, referenceReport, units, findings, hpairs]
  simp only [List.filterMap_cons, List.flatMap_cons, Match.unit?, Match.findings, generate_plain,
    generate_twiceMarked]
  rfl

end Pass

end DataContract
