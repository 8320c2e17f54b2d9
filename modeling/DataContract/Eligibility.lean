import DataContract.Declaration.Candidate
import DataContract.Engine

/-!
# Eligibility

A candidate is eligible for an engine if it can be continued elsewhere, is not static, and carries
both the engine's marker and the attribute that serialized types need.  The first of these
conditions that is not met is the reason for its rejection.
-/

namespace DataContract

open Declaration

/-- Why a candidate is not eligible. -/
inductive Rejection
  | notPartial
  | static
  | missingMarker
  | missingSerializable
  deriving DecidableEq, Repr

namespace Rejection

/-- The words for a rejection. -/
def message : Rejection → String
  | notPartial => "not declared partial"
  | static => "declared static"
  | missingMarker => "missing engine marker"
  | missingSerializable => "missing serializable marker"

end Rejection

/-- The first condition that a candidate does not meet, if there is one. -/
def rejection? (c : Candidate) (e : Engine) : Option Rejection :=
  if !c.modifiers.isPartial then some .notPartial
  else if c.modifiers.isStatic then some .static
  else if !c.hasAttribute e.markerPath then some .missingMarker
  else if !c.hasAttribute Engine.serializableMarker then some .missingSerializable
  else none

/-- Whether a candidate is eligible for an engine. -/
def eligible (c : Candidate) (e : Engine) : Bool := (rejection? c e).isNone

end DataContract
