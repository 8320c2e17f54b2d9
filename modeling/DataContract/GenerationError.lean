import DataContract.Diagnostic
import DataContract.Marker.Options

/-!
# Why there is no unit for a candidate

A candidate that gets no unit for an engine is reported with one error, which tells the first
obstacle met.
-/

namespace DataContract

open Marker

/-- Why a candidate gets no unit for an engine. -/
inductive GenerationError
  /-- No use of the marker could be bound; the error is that of the first. -/
  | invalidMarker (engine : Engine) (error : BindingError)
  | missingMarker (engine : Engine)
  /-- Several uses of the marker could be bound. -/
  | ambiguousMarker (engine : Engine) (count : Nat)
  /-- The member that the marker names does not supply settings. -/
  | unresolvedSettings (member : String)
  /-- A type around the candidate cannot be continued. -/
  | closedScope (scope : String)
  deriving DecidableEq, Repr

namespace GenerationError

/-- The code of an error. -/
def code : GenerationError → DiagnosticCode
  | invalidMarker _ _ => .invalidMarker
  | missingMarker _ => .invalidMarker
  | ambiguousMarker _ _ => .ambiguousMarker
  | unresolvedSettings _ => .unresolvedSettingsMember
  | closedScope _ => .nonPartialScope

/-- The words for an error. -/
def message : GenerationError → String
  | invalidMarker e error => s!"'{e.markerPath}' could not be bound: {error.message}"
  | missingMarker e => s!"'{e.markerPath}' is not applied to this type"
  | ambiguousMarker e count =>
    s!"'{e.markerPath}' is applied {count} times; exactly one usage is allowed"
  | unresolvedSettings member =>
    s!"settings member '{member}' is not a static property, field or parameterless method"
  | closedScope scope => s!"enclosing type '{scope}' must be declared partial"

/-- An error as a diagnostic about the candidate of the given name. -/
def diagnostic (error : GenerationError) (target : String) : Diagnostic :=
  ⟨error.code, .error, target, error.message⟩

end GenerationError

end DataContract
