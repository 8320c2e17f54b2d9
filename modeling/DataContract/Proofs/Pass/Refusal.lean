import DataContract.Proofs.Host.Recording
import DataContract.Proofs.Text.Split

/-!
# What a refused unit leaves behind

A host that refuses a unit ends the run.  What it has accepted until then is the beginning of what a
host that refuses nothing accepts in the same run, up to the refused unit and no further.

The reason is that a pass knows nothing of its host but whether it goes on accepting.  So what
there is to deliver can be written down without a host: `productions` are the matches with what is
produced for them, cached units included, and `script` is what comes of them, the warnings of a
unit right before the unit.

* `Emission.emitAll_eq_offerAll` --- emission offers its script, up to the first delivery that is
  refused.
* `Pass.run_eq_offerAll` --- a run offers the declarations of the markers and then its script.
* `Pass.run_of_refused` --- two runs over the same candidates, one of them over a host that
  refuses a unit and the other over a host that refuses nothing.
-/

namespace DataContract

open Declaration

/-! ## The script -/

/-- What is delivered for a match, given what has been produced for it. -/
def Match.delivered (m : Match) : Except GenerationError Generated → List Delivery
  | .ok generated => generated.warnings.map .diagnostic ++ [.unit generated.unit]
  | .error error => [.diagnostic (error.diagnostic m.candidate.target)]

/-- The matches with what is produced for them one after the other. -/
def productions (config : Configuration) :
    List Match → Option UnitCache → List (Match × Except GenerationError Generated)
  | [], _ => []
  | m :: rest, cache =>
    let made := m.produce config cache
    (m, made.result) :: productions config rest made.cache

/-- What is delivered for matches, given what has been produced for them. -/
def script (made : List (Match × Except GenerationError Generated)) : List Delivery :=
  made.flatMap fun (m, result) => m.delivered result

theorem unitsOf_append (ds es : List Delivery) : unitsOf (ds ++ es) = unitsOf ds ++ unitsOf es :=
  List.filterMap_append

theorem unitsOf_cons_unit (u : GeneratedUnit) (ds : List Delivery) :
    unitsOf (.unit u :: ds) = u :: unitsOf ds := rfl

/-- Diagnostics are not units. -/
theorem unitsOf_diagnostics (ds : Diagnostics) : unitsOf (ds.map .diagnostic) = [] := by
  simp [unitsOf, Delivery.unit?]

/-- A delivery of a script belongs to one of the matches, and what stands before it belongs to the
earlier matches or to the same match. -/
theorem script_eq_append_cons {made : List (Match × Except GenerationError Generated)}
    {before after : List Delivery} {d : Delivery} (h : script made = before ++ d :: after) :
    ∃ earlier m result later own rest, made = earlier ++ (m, result) :: later ∧
      m.delivered result = own ++ d :: rest ∧ before = script earlier ++ own := by
  induction made generalizing before with
  | nil => exact absurd h.symm (List.append_ne_nil_of_right_ne_nil _ (List.cons_ne_nil _ _))
  | cons x made ih =>
    obtain ⟨m, result⟩ := x
    rw [script, List.flatMap_cons] at h
    rcases List.append_eq_append_iff.mp h with ⟨own, rfl, hrest⟩ | ⟨own, hown, hrest⟩
    · obtain ⟨earlier, n, found, later, own', rest, rfl, hdelivered, rfl⟩ := ih hrest
      exact ⟨(m, result) :: earlier, n, found, later, own', rest, rfl, hdelivered,
        (List.append_assoc ..).symm⟩
    · cases own with
      | nil =>
        -- The delivery is the first of the matches behind this one.
        have hlater : script made = [] ++ d :: after := hrest.symm
        obtain ⟨earlier, n, found, later, own', rest, rfl, hdelivered, hbefore⟩ := ih hlater
        rw [List.append_nil] at hown
        refine ⟨(m, result) :: earlier, n, found, later, own', rest, rfl, hdelivered, ?_⟩
        rw [script, List.flatMap_cons, List.append_assoc, hown]
        exact (List.append_right_eq_self.mpr hbefore.symm).symm
      | cons d' own =>
        rw [List.cons_append, List.cons.injEq] at hrest
        obtain ⟨rfl, -⟩ := hrest
        exact ⟨[], m, result, made, before, own, rfl, hown, rfl⟩

/-- A unit of a script is the one that has been produced for a match, and right before it stand the
warnings about it. -/
theorem script_eq_append_unit {made : List (Match × Except GenerationError Generated)}
    {before after : List Delivery} {unit : GeneratedUnit}
    (h : script made = before ++ .unit unit :: after) :
    ∃ earlier m generated later, made = earlier ++ (m, .ok generated) :: later ∧
      generated.unit = unit ∧ before = script earlier ++ generated.warnings.map .diagnostic := by
  obtain ⟨earlier, m, result, later, own, rest, hmade, hdelivered, hbefore⟩ :=
    script_eq_append_cons h
  have hunits := congrArg unitsOf hdelivered
  rw [unitsOf_append, unitsOf_cons_unit] at hunits
  cases result with
  | error error =>
    exact absurd hunits.symm (List.append_ne_nil_of_right_ne_nil _ (List.cons_ne_nil _ _))
  | ok generated =>
    rw [Match.delivered, unitsOf_append, unitsOf_diagnostics, List.nil_append] at hunits
    obtain ⟨hown, rfl⟩ : unitsOf own = [] ∧ generated.unit = unit := by
      rcases List.singleton_eq_append_iff.mp hunits with ⟨hown, hlast⟩ | ⟨-, hlast⟩
      · exact ⟨hown, (List.head_eq_of_cons_eq hlast).symm⟩
      · cases hlast
    have hnot : ∀ {ds : List Delivery}, unitsOf ds = [] → Delivery.unit generated.unit ∉ ds := by
      intro ds hds hmem
      have hunit : generated.unit ∈ unitsOf ds := List.mem_filterMap.mpr ⟨_, hmem, rfl⟩
      rw [hds] at hunit
      exact List.not_mem_nil hunit
    obtain ⟨hwarnings, -⟩ :=
      Text.split_at_first (hnot (unitsOf_diagnostics generated.warnings)) (hnot hown) hdelivered
    exact ⟨earlier, m, generated, later, hmade, rfl, by rw [hbefore, hwarnings]⟩

/-! ## Emission -/

namespace Emission

variable {H : Type} [Host H]

/-- Diagnostics are accepted. -/
theorem diagnoseAll_eq_offerAll (s : Emission H) (ds : Diagnostics) :
    offerAll (ds.map .diagnostic) s.host = (.ok (), (s.diagnoseAll ds).host) := by
  induction ds generalizing s with
  | nil => rfl
  | cons d ds ih => exact ih (s.diagnose d)

/-- Delivery offers what is delivered. -/
theorem deliver_eq_offerAll (s : Emission H) (m : Match)
    (result : Except GenerationError Generated) :
    ((s.deliver m result).1, (s.deliver m result).2.host) =
      offerAll (m.delivered result) s.host := by
  cases result with
  | error error => rfl
  | ok generated =>
    rw [Match.delivered, offerAll_append_of_ok (s.diagnoseAll_eq_offerAll generated.warnings),
      deliver, submit, offerAll, Delivery.offer]
    rcases Host.submit generated.unit (s.diagnoseAll generated.warnings).host with ⟨_ | _, h⟩
    all_goals rfl

/-- **Emission offers its script**, up to the first delivery that is refused. -/
theorem emitAll_eq_offerAll (config : Configuration) (ms : List Match) (s : Emission H) :
    ((emitAll config ms s).1, (emitAll config ms s).2.host) =
      offerAll (script (productions config ms s.cache)) s.host := by
  induction ms generalizing s with
  | nil => rfl
  | cons m ms ih =>
    have hfirst : ((s.emit config m).1, (s.emit config m).2.host) =
        offerAll (m.delivered (m.produce config s.cache).result) s.host :=
      deliver_eq_offerAll (s.record (m.produce config s.cache)) m _
    have hcache := cache_emit s config m
    rw [emitAll, productions, script, List.flatMap_cons]
    rcases hemit : s.emit config m with ⟨error | _, s'⟩
    · rw [hemit] at hfirst
      exact (offerAll_append_of_refused hfirst.symm _).symm
    · rw [hemit] at hfirst hcache
      rw [offerAll_append_of_ok hfirst.symm, ← hcache]
      exact ih s'

end Emission

/-! ## A whole run -/

namespace Pass

variable {H : Type} [Host H]

/-- The declarations of markers are offered one after the other. -/
theorem declareMarkers_eq_offerAll (engines : List Engine) (h : H) :
    declareMarkers engines h = offerAll (engines.map fun e => .marker e.markerDeclaration) h := by
  induction engines generalizing h with
  | nil => rfl
  | cons e engines ih =>
    rw [declareMarkers, List.map_cons, offerAll, Delivery.offer]
    rcases Host.register e.markerDeclaration h with ⟨_ | _, h'⟩
    · rfl
    · exact ih h'

/-- Everything that a run over a host would deliver, if the host refused nothing. -/
def wholeScript (config : Configuration) (cache : Option UnitCache) (h : H) : List Delivery :=
  declarations ++ script (productions config (pairs config (offered h)) cache)

/-- **A run offers its script**, up to the first delivery that is refused, and fails with that
refusal. -/
theorem run_eq_offerAll (config : Configuration) (cache : Option UnitCache) (h : H) :
    (((fresh config cache).run h).result.map fun _ => ()) =
        (offerAll (wholeScript config cache h) h).1.mapError .host ∧
      ((fresh config cache).run h).host = (offerAll (wholeScript config cache h) h).2 := by
  have hdeclared : declareMarkers Engine.all h = offerAll declarations h :=
    declareMarkers_eq_offerAll Engine.all h
  rcases hd : declareMarkers Engine.all h with ⟨error | _, h'⟩
  · rw [hd] at hdeclared
    rw [run_fresh_of_error config cache hd, wholeScript,
      offerAll_append_of_refused hdeclared.symm]
    exact ⟨rfl, rfl⟩
  · rw [hd] at hdeclared
    have hemitted := Emission.emitAll_eq_offerAll config (pairs config (offered h))
      ((gathered config cache (offered h)).emission h')
    change _ = offerAll (script (productions config _ cache)) h' at hemitted
    rw [run_fresh_of_ok config cache hd, finish_eq (finish_allowedIn_gathered ..), found_gathered,
      flatMap_matchesOf, wholeScript, offerAll_append_of_ok hdeclared.symm,
      ← hemitted]
    refine ⟨?_, host_conclude _ _⟩
    show Except.map _ (conclude _ (Emission.emitAll config _ _)).result = _
    rcases ((gathered config cache (offered h)).emission h').emitAll config
      (pairs config (offered h)) with ⟨_ | _, s⟩ <;> rfl

/-- What a host accepts in a run, in order. -/
def accepted (config : Configuration) (cache : Option UnitCache) (h : H) : List Delivery :=
  ((fresh config cache).run (Recorder.of h)).host.accepted

theorem wholeScript_recorder (config : Configuration) (cache : Option UnitCache) (h : H) :
    wholeScript config cache (Recorder.of h) = wholeScript config cache h := by
  rw [wholeScript, ← Recorder.wraps_host.offered]
  rfl

/-- A host that accepts the whole script has accepted the whole script. -/
theorem accepted_of_ok {config : Configuration} {cache : Option UnitCache} {h h' : H}
    (hd : offerAll (wholeScript config cache h) h = (.ok (), h')) :
    accepted config cache h = wholeScript config cache h := by
  rw [accepted, (run_eq_offerAll config cache (Recorder.of h)).2, wholeScript_recorder, Recorder.of,
    Recorder.offerAll_of_ok hd]
  rfl

/-- A host that refuses a delivery of the script has accepted what stands before it. -/
theorem accepted_of_refused {config : Configuration} {cache : Option UnitCache} {h h' h'' : H}
    {before after : List Delivery} {d : Delivery} {error : HostError}
    (hscript : wholeScript config cache h = before ++ d :: after)
    (hbefore : offerAll before h = (.ok (), h')) (hrefused : d.offer h' = (.error error, h'')) :
    accepted config cache h = before := by
  rw [accepted, (run_eq_offerAll config cache (Recorder.of h)).2, wholeScript_recorder, hscript,
    Recorder.of, Recorder.offerAll_of_refused hbefore hrefused]
  rfl

/-- A unit of the whole script belongs to the script of the matches. -/
theorem wholeScript_eq_append_unit {config : Configuration} {cache : Option UnitCache} {h : H}
    {before after : List Delivery} {unit : GeneratedUnit}
    (hscript : wholeScript config cache h = before ++ .unit unit :: after) :
    ∃ earlier m generated later,
      productions config (pairs config (offered h)) cache =
        earlier ++ (m, .ok generated) :: later ∧
      generated.unit = unit ∧
      before = declarations ++ (script earlier ++ generated.warnings.map .diagnostic) := by
  have hnone : Delivery.unit unit ∉ declarations := by
    intro hmem
    obtain ⟨e, -, he⟩ := List.mem_map.mp hmem
    cases he
  obtain ⟨own, rfl, hown⟩ : ∃ own, before = declarations ++ own ∧
      script (productions config (pairs config (offered h)) cache) =
        own ++ .unit unit :: after := by
    rcases List.append_eq_append_iff.mp hscript with ⟨own, hbefore, hown⟩ | ⟨own, hbefore, hown⟩
    · exact ⟨own, hbefore, hown⟩
    · cases own with
      | nil => exact ⟨[], by rw [hbefore, List.append_nil, List.append_nil], hown.symm⟩
      | cons d own =>
        rw [(List.cons.inj hown).1] at hnone
        exact absurd (hbefore ▸ List.mem_append_right _ (List.mem_cons_self ..)) hnone
  obtain ⟨earlier, m, generated, later, hmade, hunit, rfl⟩ := script_eq_append_unit hown
  exact ⟨earlier, m, generated, later, hmade, hunit, rfl⟩

/-- **A refused unit cuts a run at a clean prefix.**  A host that accepts everything accepts
`before`, then a unit, and then the rest.  If another host that offers the same candidates accepts
`before` and then refuses that unit, for which `before` leaves the `k`-th place, then its run
fails with this refusal, and `before` is exactly what it has accepted, whatever is in the cache.
So it has the first `k` units, and what belongs to the matches before the one whose unit is
refused, and the warnings about this unit, and nothing that belongs to a later match. -/
theorem run_of_refused {H₀ : Type} [Host H₀] {config : Configuration} {cache : Option UnitCache}
    {h₀ : H₀} (hall : Accepting h₀) {h h' h'' : H} (hsame : offered h = offered h₀) {k : Nat}
    {before after : List Delivery} {unit : GeneratedUnit}
    (hwhole : accepted config cache h₀ = before ++ .unit unit :: after)
    (hk : (unitsOf before).length = k) (hbefore : offerAll before h = (.ok (), h'))
    {error : HostError} (hrefused : Host.submit unit h' = (.error error, h'')) :
    ((fresh config cache).run h).result = .error (.host error) ∧
      ((fresh config cache).run h).host = h'' ∧
      accepted config cache h = before ∧
      unitsOf (accepted config cache h) = (unitsOf (accepted config cache h₀)).take k ∧
      ∃ earlier m generated later,
        productions config (pairs config (offered h)) cache =
          earlier ++ (m, .ok generated) :: later ∧
        generated.unit = unit ∧
        before = declarations ++ (script earlier ++ generated.warnings.map .diagnostic) := by
  have hscript : wholeScript config cache h = before ++ .unit unit :: after := by
    rw [← hwhole, accepted_of_ok (hall.offerAll _), wholeScript, wholeScript, hsame]
  have hoffered : offerAll (wholeScript config cache h) h = (.error error, h'') := by
    rw [hscript, offerAll_append_of_ok hbefore, offerAll, Delivery.offer, hrefused]
  obtain ⟨hresult, hhost⟩ := run_eq_offerAll config cache h
  have haccepted : accepted config cache h = before := accepted_of_refused hscript hbefore hrefused
  rw [hoffered] at hresult hhost
  refine ⟨?_, hhost, haccepted, ?_, wholeScript_eq_append_unit hscript⟩
  · cases hrun : ((fresh config cache).run h).result with
    | ok report =>
      rw [hrun] at hresult
      cases hresult
    | error failure =>
      rw [hrun] at hresult
      exact congrArg Except.error (Except.error.inj hresult)
  · rw [haccepted, hwhole, unitsOf_append, List.take_left' hk]

/-! ## A unit with a warning -/

/-- A type whose marker for JSON names a member that it does not have. -/
def wanting : Candidate :=
  { plain .json [] with
    attributes :=
      [⟨Engine.json.markerPath, [⟨Engine.settingsOption, .string "Options"⟩], ""⟩,
        ⟨Engine.serializableMarker, [], ""⟩] }

/-- The warning about it. -/
def wantingWarning : Diagnostic :=
  ⟨.unresolvedSettingsMember, .warning, "Pair",
    (GenerationError.unresolvedSettings "Options").message⟩

/-- The type twice, with one between that gets an error, and another behind. -/
def mixed : List Candidate := [wanting, twiceMarked, wanting, plain .xml []]

/-- What comes of these types before the unit of the third. -/
def beforeThird : List Delivery :=
  declarations ++
    [.diagnostic wantingWarning, .unit (plainUnit .json .standard),
      .diagnostic ((GenerationError.ambiguousMarker .json 2).diagnostic "Pair"),
      .diagnostic wantingWarning]

set_option maxRecDepth 4000 in
/-- The unit of the third type comes from the cache.  A host that refuses it has been given the
warning about it once more, and nothing for the fourth type. -/
theorem run_of_refused_mixed :
    accepted .standard (some .empty) (MemoryHost.ofCandidates mixed) =
        beforeThird ++ .unit (plainUnit .json .standard) :: [.unit (plainUnit .xml .standard)] ∧
      (unitsOf beforeThird).length = 1 ∧
      ((fresh .standard (some .empty)).run (SelectiveHost.ofCandidates mixed none (some 1))).result =
        .error (.host .refused) ∧
      accepted .standard (some .empty) (SelectiveHost.ofCandidates mixed none (some 1)) =
        beforeThird := by
  have hwhole : accepted .standard (some .empty) (MemoryHost.ofCandidates mixed) =
      beforeThird ++ .unit (plainUnit .json .standard) :: [.unit (plainUnit .xml .standard)] := rfl
  have hbefore : offerAll beforeThird (SelectiveHost.ofCandidates mixed none (some 1)) =
      (.ok (), (offerAll beforeThird (SelectiveHost.ofCandidates mixed none (some 1))).2) := rfl
  obtain ⟨hresult, -, haccepted, -, -⟩ :=
    run_of_refused (h := SelectiveHost.ofCandidates mixed none (some 1))
      (accepting_memory (.ofCandidates mixed)) rfl hwhole rfl hbefore rfl
  exact ⟨hwhole, rfl, hresult, haccepted⟩

end Pass

end DataContract
