import DataContract.Proofs.Pass.Reference

/-!
# What a host accepts

A host may refuse things, and what it keeps of the things that it accepts is up to the host.  So in
order to speak of what it has accepted in a run, in the order in which it came, the host is wrapped
into a `Recorder`, which passes everything on and takes note of what is accepted.

* `Recorder.run_host` --- the run does not notice.  A recorder answers as the host in it would, so
  the result, the pass and the log are the same, and the host in it is left as it would be left on
  its own.  This holds of every wrapping of a host (`Wraps`), since all that a pass knows of its
  host are the candidates and the answers.
* `offerAll` --- deliveries that are offered one after the other, up to the first that is refused.
  `Recorder.offerAll_of_ok` and `Recorder.offerAll_of_refused` say what is recorded of them.
-/

namespace DataContract

open Declaration

/-! ## Offering one delivery after the other -/

section Offering

variable {H : Type} [Host H]

/-- Offers deliveries one after the other, up to the first one that the host refuses. -/
def offerAll : List Delivery → H → Except HostError Unit × H
  | [], h => (.ok (), h)
  | d :: ds, h =>
    match d.offer h with
    | (.ok (), h) => offerAll ds h
    | (.error error, h) => (.error error, h)

/-- The deliveries behind others are offered if the host has accepted those. -/
theorem offerAll_append_of_ok {ds : List Delivery} {h h' : H} (hd : offerAll ds h = (.ok (), h'))
    (es : List Delivery) : offerAll (ds ++ es) h = offerAll es h' := by
  induction ds generalizing h with
  | nil =>
    rw [← (Prod.mk.inj hd).2]
    rfl
  | cons d ds ih =>
    rw [offerAll] at hd
    rw [List.cons_append, offerAll]
    rcases hoffer : d.offer h with ⟨error | _, next⟩
    · rw [hoffer] at hd
      cases hd
    · rw [hoffer] at hd
      exact ih hd

/-- Behind a refusal nothing is offered any more. -/
theorem offerAll_append_of_refused {ds : List Delivery} {h h' : H} {error : HostError}
    (hd : offerAll ds h = (.error error, h')) (es : List Delivery) :
    offerAll (ds ++ es) h = (.error error, h') := by
  induction ds generalizing h with
  | nil => cases hd
  | cons d ds ih =>
    rw [offerAll] at hd
    rw [List.cons_append, offerAll]
    rcases hoffer : d.offer h with ⟨refusal | _, next⟩
    · rw [hoffer] at hd
      exact hd
    · rw [hoffer] at hd
      exact ih hd

/-- A host that accepts everything accepts all that it is offered. -/
theorem Accepting.offerAll {h : H} (hh : Accepting h) (ds : List Delivery) :
    DataContract.offerAll ds h = (.ok (), DataContract.given h ds) := by
  induction ds generalizing h with
  | nil => rfl
  | cons d ds ih =>
    rw [DataContract.offerAll, hh.offer d]
    exact ih (hh.given [d])

end Offering

/-! ## Hosts in wrappings -/

/-- Hosts of one kind in wrappings of another, which answer as the host in them would. -/
structure Wraps {K H : Type} [Host K] [Host H] (inner : K → H) : Prop where
  candidates : ∀ k, Host.candidates (inner k) = Host.candidates k
  offer : ∀ (d : Delivery) (k : K), d.offer (inner k) = ((d.offer k).1, inner (d.offer k).2)

section Wrapping

variable {K H : Type}

/-- Emission over the host in a wrapping. -/
def Emission.unwrap (inner : K → H) (s : Emission K) : Emission H :=
  ⟨inner s.host, s.cache, s.report, s.log⟩

/-- An outcome with the host in a wrapping. -/
def Outcome.unwrap {α : Type} (inner : K → H) (o : Outcome K α) : Outcome H α :=
  ⟨o.result, o.pass, inner o.host, o.log⟩

variable [Host K] [Host H] {inner : K → H}

namespace Wraps

theorem diagnose (hw : Wraps inner) (s : Emission K) (d : Diagnostic) :
    (s.unwrap inner).diagnose d = (s.diagnose d).unwrap inner := by
  have hreport : Host.report d (inner s.host) = inner (Host.report d s.host) :=
    congrArg Prod.snd (hw.offer (.diagnostic d) s.host)
  rw [Emission.diagnose, Emission.unwrap, hreport]
  rfl

theorem diagnoseAll (hw : Wraps inner) (s : Emission K) (ds : Diagnostics) :
    (s.unwrap inner).diagnoseAll ds = (s.diagnoseAll ds).unwrap inner := by
  induction ds generalizing s with
  | nil => rfl
  | cons d ds ih =>
    show ((s.unwrap inner).diagnose d).diagnoseAll ds = _
    rw [hw.diagnose]
    exact ih (s.diagnose d)

theorem submit (hw : Wraps inner) (s : Emission K) (e : Engine) (unit : GeneratedUnit) :
    (s.unwrap inner).submit e unit = ((s.submit e unit).1, (s.submit e unit).2.unwrap inner) := by
  have hsubmit := hw.offer (.unit unit) s.host
  change Host.submit unit (inner s.host) = ((Host.submit unit s.host).1, _) at hsubmit
  rw [Emission.submit, Emission.unwrap, hsubmit, Emission.submit]
  dsimp only [Delivery.offer]
  rcases Host.submit unit s.host with ⟨_ | _, host⟩ <;> rfl

theorem deliver (hw : Wraps inner) (s : Emission K) (m : Match)
    (result : Except GenerationError Generated) :
    (s.unwrap inner).deliver m result =
      ((s.deliver m result).1, (s.deliver m result).2.unwrap inner) := by
  cases result with
  | ok generated => rw [Emission.deliver, hw.diagnoseAll, hw.submit, Emission.deliver]
  | error error => rw [Emission.deliver, hw.diagnose, Emission.deliver]

/-- Emission of a match does not notice a wrapping. -/
theorem emit (hw : Wraps inner) (s : Emission K) (config : Configuration) (m : Match) :
    (s.unwrap inner).emit config m = ((s.emit config m).1, (s.emit config m).2.unwrap inner) :=
  hw.deliver (s.record (m.produce config s.cache)) m _

theorem emitAll (hw : Wraps inner) (config : Configuration) (ms : List Match) (s : Emission K) :
    Emission.emitAll config ms (s.unwrap inner) =
      ((Emission.emitAll config ms s).1, (Emission.emitAll config ms s).2.unwrap inner) := by
  induction ms generalizing s with
  | nil => rfl
  | cons m ms ih =>
    rw [Emission.emitAll, Emission.emitAll, hw.emit]
    rcases s.emit config m with ⟨_ | _, s'⟩
    · rfl
    · exact ih s'

theorem declareMarkers (hw : Wraps inner) (engines : List Engine) (k : K) :
    Pass.declareMarkers engines (inner k) =
      ((Pass.declareMarkers engines k).1, inner (Pass.declareMarkers engines k).2) := by
  induction engines generalizing k with
  | nil => rfl
  | cons e engines ih =>
    have hregister := hw.offer (.marker e.markerDeclaration) k
    change Host.register e.markerDeclaration (inner k) =
      ((Host.register e.markerDeclaration k).1, inner (Host.register e.markerDeclaration k).2)
      at hregister
    rw [Pass.declareMarkers, Pass.declareMarkers, hregister]
    rcases Host.register e.markerDeclaration k with ⟨_ | _, k'⟩
    · rfl
    · exact ih k'

/-- Finishing a pass does not notice a wrapping. -/
theorem finish (hw : Wraps inner) (p : Pass) (k : K) :
    p.finish (inner k) = (p.finish k).unwrap inner := by
  rw [Pass.finish, Pass.finish]
  split
  · have hall := hw.emitAll p.configuration p.found (p.emission k)
    change Emission.emitAll p.configuration p.found (p.emission (inner k)) = _ at hall
    rw [hall]
    rcases (p.emission k).emitAll p.configuration p.found with ⟨_ | _, s⟩
    · rfl
    · obtain ⟨host, _ | cache, report, log⟩ := s <;> rfl
  · rfl

theorem offered (hw : Wraps inner) (k : K) : Pass.offered (inner k) = Pass.offered k := by
  rw [Pass.offered, Pass.offered, hw.declareMarkers, hw.candidates]

/-- **A whole run does not notice a wrapping.** -/
theorem run (hw : Wraps inner) (config : Configuration) (cache : Option UnitCache) (k : K) :
    (Pass.fresh config cache).run (inner k) = ((Pass.fresh config cache).run k).unwrap inner := by
  have hmarkers := hw.declareMarkers Engine.all k
  rcases hd : Pass.declareMarkers Engine.all k with ⟨_ | _, k'⟩
  · rw [hd] at hmarkers
    rw [Pass.run_fresh_of_error config cache hd, Pass.run_fresh_of_error config cache hmarkers]
    rfl
  · rw [hd] at hmarkers
    rw [Pass.run_fresh_of_ok config cache hd, Pass.run_fresh_of_ok config cache hmarkers, hw.offered,
      hw.finish]
    rfl

end Wraps

end Wrapping

/-! ## Recorders -/

/-- A host, and what it has accepted, in order. -/
structure Recorder (H : Type) where
  host : H
  accepted : List Delivery
  deriving Repr

namespace Recorder

variable {H : Type} [Host H]

/-- A host that has not accepted anything yet. -/
def of (h : H) : Recorder H := ⟨h, []⟩

/-- Offers a delivery to the host, and takes note of it if it is accepted. -/
def take (d : Delivery) (r : Recorder H) : Except HostError Unit × Recorder H :=
  match d.offer r.host with
  | (.ok (), h) => (.ok (), ⟨h, r.accepted ++ [d]⟩)
  | (.error error, h) => (.error error, ⟨h, r.accepted⟩)

instance : Host (Recorder H) where
  candidates r := Host.candidates r.host
  register d := take (.marker d)
  submit u := take (.unit u)
  report d r := (take (.diagnostic d) r).2

theorem offer_eq (d : Delivery) (r : Recorder H) : d.offer r = take d r := by
  cases d <;> rfl

/-- A recorder wraps its host. -/
theorem wraps_host : Wraps (Recorder.host : Recorder H → H) where
  candidates _ := rfl
  offer d r := by
    rw [offer_eq, take]
    rcases hoffer : d.offer r.host with ⟨_ | _, h⟩ <;> rfl

/-- A run over a recorder is the run over the host in it. -/
theorem run_host (config : Configuration) (cache : Option UnitCache) (h : H) :
    (Pass.fresh config cache).run h =
      ((Pass.fresh config cache).run (Recorder.of h)).unwrap Recorder.host :=
  wraps_host.run config cache (Recorder.of h)

/-! ### What is recorded -/

/-- Deliveries that are all accepted are recorded. -/
theorem offerAll_of_ok {ds : List Delivery} {h h' : H} (hd : offerAll ds h = (.ok (), h'))
    (before : List Delivery) :
    offerAll ds (⟨h, before⟩ : Recorder H) = (.ok (), ⟨h', before ++ ds⟩) := by
  induction ds generalizing h before with
  | nil =>
    rw [List.append_nil, ← (Prod.mk.inj hd).2]
    rfl
  | cons d ds ih =>
    rw [offerAll] at hd
    rw [offerAll, offer_eq, take]
    rcases hoffer : d.offer h with ⟨error | _, next⟩
    · rw [hoffer] at hd
      cases hd
    · rw [hoffer] at hd
      dsimp only
      rw [ih hd, List.append_assoc, List.singleton_append]

/-- A delivery that is refused is not recorded, nor is any behind it. -/
theorem offerAll_of_refused {ds : List Delivery} {h h' h'' : H} {d : Delivery} {error : HostError}
    (hd : offerAll ds h = (.ok (), h')) (hrefused : d.offer h' = (.error error, h''))
    (before rest : List Delivery) :
    offerAll (ds ++ d :: rest) (⟨h, before⟩ : Recorder H) =
      (.error error, ⟨h'', before ++ ds⟩) := by
  rw [offerAll_append_of_ok (offerAll_of_ok hd before), offerAll, offer_eq, take, hrefused]

end Recorder

end DataContract
