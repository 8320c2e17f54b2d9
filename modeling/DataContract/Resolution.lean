import DataContract.Declaration.Candidate
import DataContract.GenerationError
import DataContract.Marker.Binding
import DataContract.Settings

/-!
# Resolving a marker

Of all uses of an engine's marker on a candidate exactly one has to bind.  Uses that do not bind
are passed over if one does; only if none does, the error of the first is reported.

The options of that use are then resolved against the candidate's members: a member that is named
is looked up among them.
-/

namespace DataContract

open Declaration Marker

/-- The options that a use of a marker binds to, if it does. -/
def boundOptions? (usage : AttributeUsage) : Option MarkerOptions :=
  match bindUsage usage with
  | .ok options => some options
  | .error _ => none

/-- The error of a use of a marker that does not bind. -/
def bindingError? (usage : AttributeUsage) : Option BindingError :=
  match bindUsage usage with
  | .ok _ => none
  | .error error => some error

/-- The options of the one use of an engine's marker that binds. -/
def bindMarker (c : Candidate) (e : Engine) : Except GenerationError MarkerOptions :=
  let usages := c.usagesOf e.markerPath
  match usages.filterMap boundOptions? with
  | [options] => .ok options
  | [] =>
    match usages.findSome? bindingError? with
    | some error => .error (.invalidMarker e error)
    | none => .error (.missingMarker e)
  | several => .error (.ambiguousMarker e several.length)

/-- What a marker asks for: the member that supplies settings, whether a writer on the instance is
wanted, and the name that the marker gives for the member, whether or not there is one. -/
structure Resolution where
  provider : Option SettingsProvider
  instanceWriter : Bool
  requested : Option String
  deriving DecidableEq, Repr

namespace Resolution

/-- What a marker without options asks for. -/
def standard : Resolution := ⟨none, false, none⟩

/-- The name that the marker gives for a member, if no member supplies settings under it. -/
def unresolved? (r : Resolution) : Option String :=
  match r.provider with
  | some _ => none
  | none => r.requested

/-- What options ask for among the members of a type. -/
def ofOptions (options : MarkerOptions) (members : List Member) : Resolution :=
  let requested := options.effectiveSettings
  ⟨requested.bind (settingsProvider? members), options.instanceWriter, requested⟩

end Resolution

/-- What the marker of an engine asks for on a candidate. -/
def resolve (c : Candidate) (e : Engine) : Except GenerationError Resolution := do
  let options ← bindMarker c e
  return .ofOptions options c.members

end DataContract
