import DataContract.Configuration.Text
import DataContract.Pass

/-!
# Generators

A generator owns a configuration and the cache that is kept from one run to the next.  Every run is
a pass of its own over a host.  If caching is turned off, the cache takes no part in it.
-/

namespace DataContract

/-- A configuration and a cache. -/
structure Generator where
  configuration : Configuration
  cache : UnitCache
  deriving DecidableEq, Repr

/-- How a run ends: the report or the error, the generator and the host behind it, and the
events. -/
structure Run (H : Type) where
  result : Except PassError Report
  generator : Generator
  host : H
  log : Log

/-- The event that ends a run. -/
def Report.completion (r : Report) : Event :=
  .passCompleted r.visited r.matched r.submitted.length r.cacheHits r.diagnostics.length

namespace Generator

/-- The generator by default. -/
def standard : Generator := ⟨.standard, .empty⟩

/-- A generator with an empty cache, if the configuration is valid. -/
def ofConfiguration (c : Configuration) : Except ConfigurationError Generator := do
  c.validate
  return ⟨c, .empty⟩

/-- A generator with the configuration in the file of the given name. -/
def load (file : Option String) (contents : String → Option String) :
    Except ConfigurationError Generator := do
  ofConfiguration (← Configuration.load file contents)

/-- The cache that a pass gets. -/
def passCache (g : Generator) : Option UnitCache :=
  if g.configuration.caching then some g.cache else none

/-- The generator behind a pass, which takes over what the pass has made of its cache. -/
def takeOver (g : Generator) (p : Pass) : Generator := { g with cache := p.cache.getD g.cache }

/-- The event that ends a run that has not failed. -/
def completionEvents : Except PassError Report → Log
  | .ok report => [report.completion]
  | .error _ => []

/-- Runs one pass over a host. -/
def run {H : Type} [Host H] (g : Generator) (h : H) : Run H :=
  let o := (Pass.fresh g.configuration g.passCache).run h
  ⟨o.result, g.takeOver o.pass, o.host, o.log ++ completionEvents o.result⟩

end Generator

end DataContract
