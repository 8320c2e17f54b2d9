import DataContract.Document.Decoder

/-!
# Diagnostics

A diagnostic is one finding about one candidate, which it names by its qualified name.  An error
means that a unit is missing, a warning that one may not be what was meant.  The diagnostics of a
run are kept in the order in which they were found.
-/

namespace DataContract

open Document

/-- How serious a finding is. -/
inductive Severity
  | warning
  | error
  deriving DecidableEq, Repr

namespace Severity

/-- The name of a severity. -/
def name : Severity → String
  | warning => "warning"
  | error => "error"

/-- The severities by their names. -/
def named : List (String × Severity) := [("warning", warning), ("error", error)]

end Severity

/-- What a finding is about. -/
inductive DiagnosticCode
  | ambiguousMarker
  | invalidMarker
  | nonPartialScope
  | unresolvedSettingsMember
  deriving DecidableEq, Repr

namespace DiagnosticCode

/-- The short identifier of a code. -/
def id : DiagnosticCode → String
  | invalidMarker => "CG0001"
  | ambiguousMarker => "CG0002"
  | unresolvedSettingsMember => "CG0003"
  | nonPartialScope => "CG0004"

/-- The name of a code in documents. -/
def name : DiagnosticCode → String
  | ambiguousMarker => "AmbiguousMarker"
  | invalidMarker => "InvalidMarker"
  | nonPartialScope => "NonPartialScope"
  | unresolvedSettingsMember => "UnresolvedSettingsMember"

/-- The codes by their names in documents. -/
def named : List (String × DiagnosticCode) :=
  [("AmbiguousMarker", ambiguousMarker), ("InvalidMarker", invalidMarker),
   ("NonPartialScope", nonPartialScope),
   ("UnresolvedSettingsMember", unresolvedSettingsMember)]

end DiagnosticCode

/-- A finding about the candidate named by `target`. -/
structure Diagnostic where
  code : DiagnosticCode
  severity : Severity
  target : String
  message : String
  deriving DecidableEq, Repr

namespace Diagnostic

/-- Whether a diagnostic is an error. -/
def isError (d : Diagnostic) : Bool := d.severity == .error

/-- A diagnostic on one line. -/
def text (d : Diagnostic) : String :=
  d.severity.name ++ " " ++ d.code.id ++ ": " ++ d.message ++ " [" ++ d.target ++ "]"

/-- A diagnostic as a table. -/
def encode (d : Diagnostic) : Value :=
  .object
    [("code", .string d.code.name), ("severity", .string d.severity.name),
     ("target", .string d.target), ("message", .string d.message)]

/-- A diagnostic as a record. -/
def asRecord : Record Diagnostic where
  title := "struct Diagnostic"
  fields :=
    [.due "code" (Decoder.choice DiagnosticCode.named) fun c d => { d with code := c },
     .due "severity" (Decoder.choice Severity.named) fun s d => { d with severity := s },
     .due "target" Decoder.text fun s d => { d with target := s },
     .due "message" Decoder.text fun s d => { d with message := s }]
  stray := .ignore
  blank := ⟨.ambiguousMarker, .warning, "", ""⟩

/-- Decodes a diagnostic. -/
def decode : Decoder Diagnostic := asRecord.decode

end Diagnostic

/-- Diagnostics in the order in which they were found. -/
abbrev Diagnostics := List Diagnostic

namespace Diagnostics

/-- The errors among diagnostics. -/
def errors (ds : Diagnostics) : Diagnostics := ds.filter Diagnostic.isError

/-- The warnings among diagnostics. -/
def warnings (ds : Diagnostics) : Diagnostics := ds.filter fun d => !d.isError

/-- Whether there is an error among diagnostics. -/
def hasErrors (ds : Diagnostics) : Bool := ds.any Diagnostic.isError

/-- The diagnostics, each on a line of its own. -/
def text (ds : Diagnostics) : String := String.join (ds.map fun d => d.text ++ "\n")

end Diagnostics

end DataContract
