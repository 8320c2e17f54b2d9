import DataContract.Pass.Emission

/-!
# Passes

A pass is one round of generation over what a host offers.  `Pass.start` declares the markers of
all engines, also of those that are not enabled, so that their uses still mean something.
`Pass.visit` takes a candidate and keeps it together with every enabled engine that it is eligible
for.  `Pass.finish` emits everything that has been kept, and leaves the pass as it was before it was
started, whether or not emission succeeds.

The cache is swept at the end of a pass, but not if the host has refused a unit, since then the pass
has not seen everything that it would have used.
-/

namespace DataContract

open Declaration

/-- A pass: its configuration, its cache if it has one, its state, what has matched so far, and how
many candidates have been visited. -/
structure Pass where
  configuration : Configuration
  cache : Option UnitCache
  state : PassState
  found : List Match
  visited : Nat
  deriving DecidableEq, Repr

/-- How an operation on a pass ends: its result, the pass and the host behind it, and the events. -/
structure Outcome (H α : Type) where
  result : Except PassError α
  pass : Pass
  host : H
  log : Log

/-- Goes on behind an operation, unless it has failed. -/
def Outcome.andThen {H α β : Type} (o : Outcome H α) (next : α → Pass → H → Outcome H β) :
    Outcome H β :=
  match o.result with
  | .ok a =>
    let behind := next a o.pass o.host
    { behind with log := o.log ++ behind.log }
  | .error error => ⟨.error error, o.pass, o.host, o.log⟩

namespace Pass

variable {H : Type} [Host H]

/-- A pass that has not been started. -/
def fresh (configuration : Configuration) (cache : Option UnitCache) : Pass :=
  ⟨configuration, cache, .idle, [], 0⟩

/-- The pass with nothing accumulated, and with the given cache. -/
def reset (p : Pass) (cache : Option UnitCache) : Pass := fresh p.configuration cache

/-- The outcome of an operation that the state of the pass does not allow. -/
def refuse {α : Type} (p : Pass) (h : H) (operation : PassOperation) : Outcome H α :=
  ⟨.error (.outOfOrder operation p.state), p, h, []⟩

/-! ## Starting -/

/-- Declares the markers of engines to a host, up to the first one that it refuses. -/
def declareMarkers : List Engine → H → Except HostError Unit × H
  | [], h => (.ok (), h)
  | e :: rest, h =>
    match Host.register e.markerDeclaration h with
    | (.ok (), h) => declareMarkers rest h
    | (.error error, h) => (.error error, h)

/-- Starts a pass.  It stays idle if the host refuses the declaration of a marker. -/
def start (p : Pass) (h : H) : Outcome H Unit :=
  if PassOperation.start.allowedIn p.state then
    match declareMarkers Engine.all h with
    | (.ok (), h) =>
      ⟨.ok (), { p with state := .initialized }, h, [.stateChanged p.state .initialized]⟩
    | (.error error, h) => ⟨.error (.host error), p, h, []⟩
  else p.refuse h .start

/-! ## Visiting -/

/-- The matches of a candidate, in the order of the enabled engines. -/
def matchesOf (config : Configuration) (c : Candidate) : List Match :=
  (config.engines.filter (eligible c)).map (⟨c, ·⟩)

/-- The event that tells whether a candidate is eligible for an engine. -/
def verdict (c : Candidate) (e : Engine) : Event :=
  match rejection? c e with
  | none => .matched c.name e
  | some reason => .skipped c.name e reason

/-- The event of the first visit. -/
def enteringEvents : PassState → Log
  | .initialized => [.stateChanged .initialized .collecting]
  | _ => []

/-- Visits a candidate. -/
def visit (p : Pass) (c : Candidate) (h : H) : Outcome H Unit :=
  if PassOperation.visit.allowedIn p.state then
    ⟨.ok (),
      { p with
        state := .collecting
        found := p.found ++ matchesOf p.configuration c
        visited := p.visited + 1 },
      h, enteringEvents p.state ++ p.configuration.engines.map (verdict c)⟩
  else p.refuse h .visit

/-- Visits candidates one after the other. -/
def visitAll (p : Pass) (h : H) : List Candidate → Outcome H Unit
  | [] => ⟨.ok (), p, h, []⟩
  | c :: rest => (p.visit c h).andThen fun _ p h => p.visitAll h rest

/-! ## Finishing -/

/-- Emission before the first match. -/
def emission (p : Pass) (h : H) : Emission H :=
  ⟨h, p.cache, .start p.visited p.found.length, [.stateChanged p.state .emitting]⟩

/-- The event that ends a pass. -/
def closing : Event := .stateChanged .emitting .idle

/-- Emits what the pass has found and returns it to where it was before it was started. -/
def finish (p : Pass) (h : H) : Outcome H Report :=
  if PassOperation.finish.allowedIn p.state then
    match (p.emission h).emitAll p.configuration p.found with
    | (.ok (), s) =>
      let s := s.sweep
      ⟨.ok s.report, p.reset s.cache, s.host, s.log ++ [closing]⟩
    | (.error error, s) =>
      ⟨.error (.host error), p.reset s.cache, s.host, s.log ++ [closing]⟩
  else p.refuse h .finish

/-! ## A whole pass -/

/-- Starts a pass, visits every candidate of the host and finishes. -/
def run (p : Pass) (h : H) : Outcome H Report :=
  (p.start h).andThen fun _ p h =>
    (p.visitAll h (Host.candidates h)).andThen fun _ p h => p.finish h

end Pass

end DataContract
