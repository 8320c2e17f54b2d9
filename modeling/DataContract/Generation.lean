import DataContract.Configuration
import DataContract.Source.Synthesis
import DataContract.UnitName

/-!
# Generating a unit

A unit is generated for a candidate and an engine in three steps: the marker is resolved, the tree
is built, and the tree is written and named.  If the marker names a member that does not supply
settings, the policy of the configuration decides whether that is an error, a warning, or nothing.
-/

namespace DataContract

open Declaration

/-- A generated unit: its name and its source text. -/
structure GeneratedUnit where
  name : UnitName
  source : String
  deriving DecidableEq, Repr

/-- A generated unit with the warnings that its generation raised. -/
structure Generated where
  unit : GeneratedUnit
  warnings : Diagnostics
  deriving DecidableEq, Repr

/-- The warnings about a member that does not supply settings, or the error if the policy denies
that. -/
def unresolvedWarnings (policy : UnresolvedPolicy) (target : String) (r : Resolution) :
    Except GenerationError Diagnostics :=
  match r.unresolved? with
  | none => .ok []
  | some member =>
    let error := GenerationError.unresolvedSettings member
    match policy.severity? with
    | none => .ok []
    | some .warning => .ok [⟨.unresolvedSettingsMember, .warning, target, error.message⟩]
    | some .error => .error error

/-- The unit for a candidate, given what its marker asks for. -/
def generateResolved (c : Candidate) (e : Engine) (config : Configuration) (r : Resolution) :
    Except GenerationError Generated := do
  let warnings ← unresolvedWarnings config.unresolved c.target r
  let tree ← Source.synthesize c e r
  return ⟨⟨.ofCandidate c e, tree.render config.layout⟩, warnings⟩

/-- The unit for a candidate and an engine.  Whether the candidate is eligible is not asked. -/
def generate (c : Candidate) (e : Engine) (config : Configuration) :
    Except GenerationError Generated := do
  let r ← resolve c e
  generateResolved c e config r

end DataContract
