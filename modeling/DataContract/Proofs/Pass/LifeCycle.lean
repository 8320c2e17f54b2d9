import DataContract.Proofs.Cache.Confusion

/-!
# The life-cycle of a pass

Between two calls a pass stands in one of two ways.  Either nothing is going on, and it cannot be
told from a new one but for its cache; or it has been started, and holds what it has collected from
the candidates visited since.  `Standing` says so.  Every call leads from one such standing to
another, whatever the host makes of it (`standing_call_fresh`, `standing_call_gathered`).

`Reached` are the passes that one comes by, each with the calls behind it.  The candidates that
`visitedSince` reads off these calls are those by which the pass stands (`Reached.standing`), and the
rest of the life-cycle follows from that (`Reached.lifeCycle`).  The hosts need not be the same from
one call to the next.

Only `finish` passes through the state of emission, and it does not stop there: a unit that is
refused in the middle drops everything just as a successful end does.
-/

namespace DataContract

open Declaration

/-- A call of an operation of a pass. -/
inductive Call
  | start
  | visit (c : Candidate)
  | finish
  deriving DecidableEq, Repr

/-- The operation that is called. -/
def Call.operation : Call → PassOperation
  | start => .start
  | visit _ => .visit
  | finish => .finish

/-- A call that has been made, and whether it has succeeded. -/
structure PastCall where
  call : Call
  succeeded : Bool
  deriving DecidableEq, Repr

/-- The candidates that have been visited since a pass was last started, in order.  The latest call
comes first. -/
def visitedSince : List PastCall → List Candidate
  | [] => []
  | ⟨.start, true⟩ :: _ => []
  | ⟨.visit c, true⟩ :: past => visitedSince past ++ [c]
  | _ :: past => visitedSince past

/-- An outcome with another result. -/
def Outcome.map {H α β : Type} (f : α → β) (o : Outcome H α) : Outcome H β :=
  { o with result := o.result.map f }

namespace Pass

section Calls

variable {H : Type} [Host H]

/-- Makes a call.  Only finishing gives a report. -/
def call (p : Pass) (h : H) : Call → Outcome H (Option Report)
  | .start => (p.start h).map fun _ => none
  | .visit c => (p.visit c h).map fun _ => none
  | .finish => (p.finish h).map some

/-- Whether a call has succeeded. -/
def succeeds (p : Pass) (h : H) (call : Call) : Bool := (p.call h call).result.isOk

/-! ## What a call does -/

/-- **A call that the state does not allow** is refused, and changes nothing. -/
theorem call_of_not_allowedIn {p : Pass} (call : Call)
    (hp : call.operation.allowedIn p.state = false) (h : H) :
    p.call h call = ⟨.error (.outOfOrder call.operation p.state), p, h, []⟩ := by
  cases call with
  | start =>
    change PassOperation.start.allowedIn p.state = false at hp
    rw [Pass.call, start, hp]
    rfl
  | visit c =>
    change PassOperation.visit.allowedIn p.state = false at hp
    rw [Pass.call, visit, hp]
    rfl
  | finish =>
    change PassOperation.finish.allowedIn p.state = false at hp
    rw [Pass.call, finish, hp]
    rfl

/-- Starting a pass starts it, unless the host refuses a declaration and the pass stays as it is. -/
theorem start_cases {p : Pass} (hp : PassOperation.start.allowedIn p.state = true) (h : H) :
    ((p.start h).result = .ok () ∧ (p.start h).pass = { p with state := .initialized }) ∨
      ∃ error, (p.start h).result = .error (.host error) ∧ (p.start h).pass = p := by
  rw [start, if_pos hp]
  rcases declareMarkers Engine.all h with ⟨error | _, h'⟩
  · exact Or.inr ⟨error, rfl, rfl⟩
  · exact Or.inl ⟨rfl, rfl⟩

/-- An idle pass is started exactly if the host takes all declarations. -/
theorem state_start_of_idle {p : Pass} (hp : p.state = .idle) (h : H) :
    (p.start h).pass.state =
      if (declareMarkers Engine.all h).1.isOk then .initialized else .idle := by
  have hallowed : PassOperation.start.allowedIn p.state = true := by rw [hp]; rfl
  rw [start, if_pos hallowed]
  rcases declareMarkers Engine.all h with ⟨error | _, h'⟩
  · exact hp
  · rfl

/-- Finishing leaves nothing of a pass but its cache, and is only refused by the host. -/
theorem finish_cases {p : Pass} (hp : PassOperation.finish.allowedIn p.state = true) (h : H) :
    (p.finish h).pass = p.reset (p.finish h).pass.cache ∧
      ((∃ report, (p.finish h).result = .ok report) ∨
        ∃ error, (p.finish h).result = .error (.host error)) := by
  rw [finish_eq hp]
  rcases (p.emission h).emitAll p.configuration p.found with ⟨error | _, s⟩
  · exact ⟨rfl, Or.inr ⟨error, rfl⟩⟩
  · exact ⟨rfl, Or.inl ⟨s.sweep.report, rfl⟩⟩

/-- A call that the state allows is not refused as being out of order. -/
theorem not_outOfOrder_of_allowedIn {p : Pass} {call : Call}
    (hp : call.operation.allowedIn p.state = true) (h : H) (operation : PassOperation)
    (state : PassState) : (p.call h call).result ≠ .error (.outOfOrder operation state) := by
  cases call with
  | start =>
    rcases start_cases hp h with ⟨hresult, -⟩ | ⟨error, hresult, -⟩ <;>
      simp [Pass.call, Outcome.map, hresult, Except.map]
  | visit c => simp [Pass.call, Outcome.map, visit_eq hp, Except.map]
  | finish =>
    rcases (finish_cases hp h).2 with ⟨report, hresult⟩ | ⟨error, hresult⟩ <;>
      simp [Pass.call, Outcome.map, hresult, Except.map]

end Calls

/-! ## How a pass stands -/

/-- How a pass may stand between two calls, when the given candidates have been visited since it was
last started. -/
inductive Standing (config : Configuration) : Pass → List Candidate → Prop
  | idle (cache : Option UnitCache) (cs : List Candidate) : Standing config (fresh config cache) cs
  | started (cache : Option UnitCache) (cs : List Candidate) :
    Standing config (gathered config cache cs) cs

/-- A pass that has been started takes another candidate in. -/
theorem collect_gathered (config : Configuration) (cache : Option UnitCache) (cs : List Candidate)
    (c : Candidate) : (gathered config cache cs).collect [c] = gathered config cache (cs ++ [c]) := by
  simp [gathered, begun, fresh, collect]

theorem visit_allowedIn_gathered (config : Configuration) (cache : Option UnitCache)
    (cs : List Candidate) :
    PassOperation.visit.allowedIn (gathered config cache cs).state = true :=
  visit_allowedIn_collect rfl cs

theorem start_not_allowedIn_gathered (config : Configuration) (cache : Option UnitCache)
    (cs : List Candidate) :
    PassOperation.start.allowedIn (gathered config cache cs).state = false := by
  cases cs <;> rfl

/-- What a pass holds that stands well. -/
theorem Standing.holds {config : Configuration} {p : Pass} {cs : List Candidate}
    (hp : Standing config p cs) :
    (p.state = .idle ∨ p.state = .initialized ∨ p.state = .collecting) ∧
      (p.state = .idle ∨ p.state = .initialized → p.found = [] ∧ p.visited = 0) ∧
      (p.state = .collecting → p.found = cs.flatMap (matchesOf config) ∧
        p.visited = cs.length) := by
  cases hp with
  | idle cache => exact ⟨Or.inl rfl, fun _ => ⟨rfl, rfl⟩, fun hstate => nomatch hstate⟩
  | started cache =>
    cases cs with
    | nil =>
      refine ⟨Or.inr (Or.inl rfl), fun _ => ?_, fun hstate => nomatch hstate⟩
      rw [gathered, collect_nil]
      exact ⟨rfl, rfl⟩
    | cons c cs =>
      refine ⟨Or.inr (Or.inr rfl), fun hstate => ?_, fun _ => ⟨found_gathered .., ?_⟩⟩
      · rcases hstate with hstate | hstate <;> cases hstate
      · exact Nat.zero_add _

/-- Visiting a candidate leaves a pass that has been started collecting. -/
theorem Standing.state_visit {config : Configuration} {p : Pass} {cs : List Candidate}
    (hp : Standing config p cs) (hstarted : p.state ≠ .idle) {H : Type} [Host H] (h : H)
    (c : Candidate) : (p.visit c h).pass.state = .collecting := by
  cases hp with
  | idle cache => exact absurd rfl hstarted
  | started cache =>
    rw [visit_eq (visit_allowedIn_gathered config cache cs)]
    rfl

/-- Finishing a pass that stands well leaves a new one but for its cache. -/
theorem Standing.pass_finish {config : Configuration} {p : Pass} {cs : List Candidate}
    (hp : Standing config p cs) {H : Type} [Host H] (h : H) :
    (p.finish h).pass = fresh config (p.finish h).pass.cache := by
  cases hp with
  | idle cache => rfl
  | started cache => exact (finish_cases (finish_allowedIn_gathered config cache cs) h).1

/-- A call leads from a pass with nothing going on to one that stands well. -/
theorem standing_call_fresh (config : Configuration) (cache : Option UnitCache)
    (past : List PastCall) {H : Type} [Host H] (h : H) (call : Call) :
    Standing config ((fresh config cache).call h call).pass
      (visitedSince (⟨call, (fresh config cache).succeeds h call⟩ :: past)) := by
  cases call with
  | start =>
    rcases start_cases (start_allowedIn_fresh config cache) h with
      ⟨hresult, hpass⟩ | ⟨error, -, hpass⟩
    · have hsucceeds : (fresh config cache).succeeds h .start = true := by
        simp [succeeds, Pass.call, Outcome.map, hresult, Except.map, Except.isOk, Except.toBool]
      have hstarted : ((fresh config cache).call h .start).pass = gathered config cache [] := hpass
      rw [hsucceeds, hstarted]
      exact Standing.started cache []
    · have hsame : ((fresh config cache).call h .start).pass = fresh config cache := hpass
      rw [hsame]
      exact Standing.idle cache _
  | visit c =>
    rw [call_of_not_allowedIn (.visit c) rfl h]
    exact Standing.idle cache _
  | finish =>
    rw [call_of_not_allowedIn .finish rfl h]
    exact Standing.idle cache _

/-- A call leads from a pass that is collecting to one that stands well. -/
theorem standing_call_gathered (config : Configuration) (cache : Option UnitCache)
    (past : List PastCall) {H : Type} [Host H] (h : H) (call : Call) :
    Standing config ((gathered config cache (visitedSince past)).call h call).pass
      (visitedSince
        (⟨call, (gathered config cache (visitedSince past)).succeeds h call⟩ :: past)) := by
  cases call with
  | start =>
    have hnot := start_not_allowedIn_gathered config cache (visitedSince past)
    rw [succeeds, call_of_not_allowedIn .start hnot h]
    exact Standing.started cache _
  | visit c =>
    have hvisit := visit_eq (visit_allowedIn_gathered config cache (visitedSince past)) c h
    rw [succeeds, Pass.call, hvisit, collect_gathered]
    exact Standing.started cache _
  | finish =>
    have hpass := (finish_cases (finish_allowedIn_gathered config cache (visitedSince past)) h).1
    show Standing config ((gathered config cache (visitedSince past)).finish h).pass _
    rw [hpass]
    exact Standing.idle _ _

/-- The passes that one comes by from a configuration, each with the calls behind it, the latest
first.  Every call may be made over a host of its own. -/
inductive Reached (config : Configuration) : Pass → List PastCall → Prop
  | fresh (cache : Option UnitCache) : Reached config (fresh config cache) []
  | call {p : Pass} {past : List PastCall} (hp : Reached config p past) {H : Type} [Host H] (h : H)
      (call : Call) : Reached config (p.call h call).pass (⟨call, p.succeeds h call⟩ :: past)

/-- **Every pass that one comes by stands well.** -/
theorem Reached.standing {config : Configuration} {p : Pass} {past : List PastCall}
    (hp : Reached config p past) : Standing config p (visitedSince past) := by
  induction hp with
  | fresh cache => exact Standing.idle cache []
  | @call p past _ H _ h call ih =>
    generalize hcs : visitedSince past = cs at ih
    cases ih with
    | idle cache => exact standing_call_fresh config cache past h call
    | started cache =>
      subst hcs
      exact standing_call_gathered config cache past h call

/-! ## The life-cycle -/

/-- What holds of a pass between two calls, with the calls behind it. -/
structure LifeCycle (config : Configuration) (past : List PastCall) (p : Pass) : Prop where
  /-- Between two calls nothing is being emitted. -/
  state : p.state = .idle ∨ p.state = .initialized ∨ p.state = .collecting
  /-- Unless it is collecting, a pass holds nothing. -/
  empty : p.state = .idle ∨ p.state = .initialized → p.found = [] ∧ p.visited = 0
  /-- A pass that is collecting holds what its visits since the last start amount to. -/
  held : p.state = .collecting → p.found = (visitedSince past).flatMap (matchesOf config) ∧
    p.visited = (visitedSince past).length
  /-- A call that the state does not allow fails, and changes nothing. -/
  refused : ∀ {H : Type} [Host H] (h : H) (call : Call), call.operation.allowedIn p.state = false →
    p.call h call = ⟨.error (.outOfOrder call.operation p.state), p, h, []⟩
  /-- No other call is out of order. -/
  inOrder : ∀ {H : Type} [Host H] (h : H) (call : Call), call.operation.allowedIn p.state = true →
    ∀ operation state, (p.call h call).result ≠ .error (.outOfOrder operation state)
  /-- A pass that is started stays idle if the host refuses a declaration, and only then. -/
  started : ∀ {H : Type} [Host H] (h : H), p.state = .idle →
    (p.start h).pass.state = if (declareMarkers Engine.all h).1.isOk then .initialized else .idle
  /-- A pass that has been started and visits a candidate is collecting. -/
  visited : ∀ {H : Type} [Host H] (h : H) (c : Candidate), p.state ≠ .idle →
    (p.visit c h).pass.state = .collecting
  /-- Whether or not the host refuses a unit, finishing leaves a new pass but for the cache. -/
  finished : ∀ {H : Type} [Host H] (h : H), (p.finish h).pass = fresh config (p.finish h).pass.cache

/-- **The life-cycle of a pass**, whatever has been called before and over whatever hosts. -/
theorem Reached.lifeCycle {config : Configuration} {p : Pass} {past : List PastCall}
    (hp : Reached config p past) : LifeCycle config past p := by
  obtain ⟨hstate, hempty, hheld⟩ := hp.standing.holds
  exact
    { state := hstate
      empty := hempty
      held := hheld
      refused := fun h call hnot => call_of_not_allowedIn call hnot h
      inOrder := fun h _ hallowed => not_outOfOrder_of_allowedIn hallowed h
      started := fun h hidle => state_start_of_idle hidle h
      visited := fun h c hstarted => hp.standing.state_visit hstarted h c
      finished := fun h => hp.standing.pass_finish h }

/-- A pass that is started again after the host has refused the first declaration, and then visits a
type. -/
def restarted : Outcome SelectiveHost (Option Report) :=
  let refused := (fresh .standard none).call (SelectiveHost.ofCandidates [] (some 0) none) .start
  let started := refused.pass.call refused.host .start
  started.pass.call started.host (.visit (plain .json []))

/-- The first start has failed and the second has not, and the pass holds the one match of the type
that it has visited. -/
theorem Reached.lifeCycle_restarted :
    Reached .standard restarted.pass
        [⟨.visit (plain .json []), true⟩, ⟨.start, true⟩, ⟨.start, false⟩] ∧
      restarted.pass.found = [⟨plain .json [], .json⟩] ∧ restarted.pass.visited = 1 := by
  have hreached : Reached .standard restarted.pass
      [⟨.visit (plain .json []), true⟩, ⟨.start, true⟩, ⟨.start, false⟩] :=
    .call (.call (.call (.fresh none) _ .start) _ .start) _ (.visit (plain .json []))
  obtain ⟨hfound, hvisited⟩ := hreached.lifeCycle.held rfl
  have hmatches : [plain .json []].flatMap (matchesOf .standard) = [⟨plain .json [], .json⟩] := by
    decide
  exact ⟨hreached, hfound.trans hmatches, hvisited⟩

end Pass

end DataContract
