import DataContract.Eligibility
import DataContract.Pass.State
import DataContract.Text.Quoted

/-!
# Events

A pass logs what it does.  Every event has a level, possibly a message, and fields that say what it
is about.  Together the events tell the same story as the report of the pass: what matched and what
did not, which units were submitted, and which diagnostics were reported.
-/

namespace DataContract

open Document

/-- How closely one has to look at a log in order to see an event. -/
inductive Level
  | trace
  | debug
  | warn
  deriving DecidableEq, Repr

/-- The name of a level. -/
def Level.name : Level → String
  | trace => "trace"
  | debug => "debug"
  | warn => "warn"

/-- What a pass logs.  Candidates are given by their names. -/
inductive Event
  | stateChanged (before after : PassState)
  | matched (candidate : String) (engine : Engine)
  | skipped (candidate : String) (engine : Engine) (reason : Rejection)
  | settingsResolved (candidate : String) (engine : Engine) (requested : Option String)
      (provider : Option SettingsProvider)
  | cacheHit (candidate : String) (engine : Engine)
  | warned (diagnostic : Diagnostic)
  | candidateSkipped (diagnostic : Diagnostic)
  | unitSubmitted (unit : UnitName) (engine : Engine)
  | passCompleted (visits pairs units hits findings : Nat)
  deriving DecidableEq, Repr

/-! ## Values in events -/

/-- A value that may be missing. -/
def describeOptional : Option String → String
  | none => "None"
  | some text => "Some(" ++ text ++ ")"

/-- The name of a shape in events. -/
def ProviderShape.title : ProviderShape → String
  | property => "Property"
  | field => "Field"
  | method => "Method"

/-- A provider of settings, with its parts. -/
def SettingsProvider.description (p : SettingsProvider) : String :=
  "SettingsAccess \x7b member: " ++ Text.quoted p.member ++ ", shape: " ++ p.shape.title ++ " \x7d"

namespace Event

/-- The level of an event. -/
def level : Event → Level
  | stateChanged .. => .debug
  | matched .. => .trace
  | skipped .. => .trace
  | settingsResolved .. => .trace
  | cacheHit .. => .trace
  | warned _ => .warn
  | candidateSkipped _ => .debug
  | unitSubmitted .. => .debug
  | passCompleted .. => .debug

/-- The message of an event, if it has one. -/
def message? : Event → Option String
  | stateChanged .. => some "pass state"
  | matched .. => some "matched"
  | skipped .. => some "skipped"
  | settingsResolved .. => some "resolved settings member"
  | cacheHit .. => some "cache hit"
  | warned _ => none
  | candidateSkipped _ => some "candidate skipped"
  | unitSubmitted .. => some "unit submitted"
  | passCompleted .. => some "pass complete"

/-- The fields of an event about a candidate and an engine. -/
def pairFields (candidate : String) (engine : Engine) : List (String × Value) :=
  [("candidate", .string candidate), ("engine", .string engine.title)]

/-- The fields of an event. -/
def fields : Event → List (String × Value)
  | stateChanged before after => [("from", .string before.name), ("to", .string after.name)]
  | matched candidate engine => pairFields candidate engine
  | skipped candidate engine reason =>
    pairFields candidate engine ++ [("reason", .string reason.message)]
  | settingsResolved candidate engine requested provider =>
    pairFields candidate engine ++
      [("requested", .string (describeOptional (requested.map Text.quoted))),
       ("resolved", .string (describeOptional (provider.map SettingsProvider.description)))]
  | cacheHit candidate engine => pairFields candidate engine
  | warned d => [("diagnostic", .string d.text)]
  | candidateSkipped d => [("diagnostic", .string d.text)]
  | unitSubmitted unit engine => [("unit", .string unit.text), ("engine", .string engine.title)]
  | passCompleted visits pairs units hits findings =>
    [("visited", .natural visits), ("matched", .natural pairs), ("submitted", .natural units),
     ("cache_hits", .natural hits), ("diagnostics", .natural findings)]

/-- An event as a table, in which its message stands among its fields. -/
def encode (e : Event) : Value :=
  let message :=
    match e.message? with
    | some text => [("message", .string text)]
    | none => []
  .object [("level", .string e.level.name), ("fields", .object (message ++ e.fields))]

end Event

/-- Events in the order in which they happened. -/
abbrev Log := List Event

end DataContract
