import DataContract.Host

/-!
# Hosts in memory

A memory host offers the same candidates in every run and keeps everything that it is given, until
its outputs are cleared.

A selective host is a memory host that refuses one declaration, or one unit, or both, chosen by
their place in the order in which they come over the whole life of the host.  What is refused is
counted, and not kept.
-/

namespace DataContract

open Declaration

/-- A host that keeps what it is given. -/
structure MemoryHost where
  candidates : List Candidate
  preludes : List Engine.MarkerDeclaration
  units : List GeneratedUnit
  diagnostics : Diagnostics
  deriving DecidableEq, Repr

namespace MemoryHost

/-- A host that offers candidates and has been given nothing. -/
def ofCandidates (candidates : List Candidate) : MemoryHost := ⟨candidates, [], [], []⟩

/-- The host with one more declaration. -/
def addPrelude (h : MemoryHost) (d : Engine.MarkerDeclaration) : MemoryHost :=
  { h with preludes := h.preludes ++ [d] }

/-- The host with one more unit. -/
def addUnit (h : MemoryHost) (u : GeneratedUnit) : MemoryHost := { h with units := h.units ++ [u] }

/-- The host with one more diagnostic. -/
def addDiagnostic (h : MemoryHost) (d : Diagnostic) : MemoryHost :=
  { h with diagnostics := h.diagnostics ++ [d] }

/-- The host without anything that it has been given. -/
def clear (h : MemoryHost) : MemoryHost := .ofCandidates h.candidates

/-- The first unit of a given name. -/
def unit? (h : MemoryHost) (name : String) : Option GeneratedUnit :=
  h.units.find? (·.name.text == name)

end MemoryHost

instance : Host MemoryHost where
  candidates h := h.candidates
  register d h := (.ok (), h.addPrelude d)
  submit u h := (.ok (), h.addUnit u)
  report d h := h.addDiagnostic d

/-- A memory host that refuses the declaration and the unit at given places, counted from zero,
and the numbers of those that have come so far. -/
structure SelectiveHost where
  memory : MemoryHost
  refusedPrelude : Option Nat
  refusedUnit : Option Nat
  preludesSeen : Nat
  unitsSeen : Nat
  deriving DecidableEq, Repr

namespace SelectiveHost

/-- A host that offers candidates and has been given nothing. -/
def ofCandidates (candidates : List Candidate) (refusedPrelude refusedUnit : Option Nat) :
    SelectiveHost :=
  ⟨.ofCandidates candidates, refusedPrelude, refusedUnit, 0, 0⟩

/-- Takes or refuses a declaration. -/
def register (d : Engine.MarkerDeclaration) (h : SelectiveHost) :
    Except HostError Unit × SelectiveHost :=
  let next := { h with preludesSeen := h.preludesSeen + 1 }
  if h.refusedPrelude = some h.preludesSeen then (.error .refused, next)
  else (.ok (), { next with memory := h.memory.addPrelude d })

/-- Takes or refuses a unit. -/
def submit (u : GeneratedUnit) (h : SelectiveHost) : Except HostError Unit × SelectiveHost :=
  let next := { h with unitsSeen := h.unitsSeen + 1 }
  if h.refusedUnit = some h.unitsSeen then (.error .refused, next)
  else (.ok (), { next with memory := h.memory.addUnit u })

/-- The host without anything that it has been given.  What has been counted stays so. -/
def clear (h : SelectiveHost) : SelectiveHost := { h with memory := h.memory.clear }

end SelectiveHost

instance : Host SelectiveHost where
  candidates h := h.memory.candidates
  register := SelectiveHost.register
  submit := SelectiveHost.submit
  report d h := { h with memory := h.memory.addDiagnostic d }

end DataContract
