import DataContract.Diagnostic
import DataContract.Engine
import DataContract.Source.Layout

/-!
# Configurations

A configuration says which engines are enabled and in what order they come, what happens if a
marker names a member that does not supply settings, how source text is laid out, and whether units
are kept from one run to the next.
-/

namespace DataContract

open Document

/-- What happens if the member that a marker names does not supply settings. -/
inductive UnresolvedPolicy
  | allow
  | warn
  | deny
  deriving DecidableEq, Repr

namespace UnresolvedPolicy

/-- The severity of the diagnostic that is reported, if one is. -/
def severity? : UnresolvedPolicy → Option Severity
  | allow => none
  | warn => some .warning
  | deny => some .error

/-- The name of a policy. -/
def name : UnresolvedPolicy → String
  | allow => "allow"
  | warn => "warn"
  | deny => "deny"

/-- The policies by their names. -/
def named : List (String × UnresolvedPolicy) := [("allow", allow), ("warn", warn), ("deny", deny)]

end UnresolvedPolicy

/-- A configuration: the enabled engines in their order, the policy on settings, the layout of
source text, and whether units are cached. -/
structure Configuration where
  engines : List Engine
  unresolved : UnresolvedPolicy
  layout : Source.Layout
  caching : Bool
  deriving DecidableEq, Repr

/-- What can be wrong with a configuration. -/
inductive ConfigurationError
  | noEngines
  | duplicateEngine (e : Engine)
  /-- A file of the wrong shape. -/
  | mismatch (m : Mismatch)
  /-- A file that is no configuration file at all. -/
  | malformed
  /-- A file that cannot be read. -/
  | unreadable
  deriving DecidableEq, Repr

namespace ConfigurationError

/-- The words for an error, where there are any. -/
def message? : ConfigurationError → Option String
  | noEngines => some "at least one engine must be enabled"
  | duplicateEngine e => some s!"duplicate engine '{e.title}' in engines"
  | mismatch m => some m.message
  | malformed => none
  | unreadable => none

end ConfigurationError

namespace Configuration

/-- The configuration by default. -/
def standard : Configuration := ⟨Engine.all, .warn, .standard, true⟩

/-- The first engine that has occurred before. -/
def firstDuplicate? : List Engine → List Engine → Option Engine
  | _, [] => none
  | seen, e :: rest => if seen.contains e then some e else firstDuplicate? (e :: seen) rest

/-- Refuses a configuration without engines or with an engine enabled twice. -/
def validate (c : Configuration) : Except ConfigurationError Unit :=
  if c.engines.isEmpty then .error .noEngines
  else
    match firstDuplicate? [] c.engines with
    | some e => .error (.duplicateEngine e)
    | none => .ok ()

/-! ## Configurations as documents -/

/-- A layout as a table. -/
def encodeLayout (l : Source.Layout) : Value :=
  .object
    [("indent", .string l.indent), ("doc_comments", .boolean l.docComments),
     ("auto_generated_header", .boolean l.header)]

/-- A configuration as a table. -/
def encode (c : Configuration) : Value :=
  .object
    [("engines", Value.texts (c.engines.map Engine.name)),
     ("settings_member", .object [("unresolved", .string c.unresolved.name)]),
     ("output", encodeLayout c.layout),
     ("cache", .object [("enabled", .boolean c.caching)])]

/-- A policy on settings as a record. -/
def policyRecord : Record UnresolvedPolicy where
  title := "struct SettingsMemberConfig"
  fields := [.optional "unresolved" (Decoder.choice UnresolvedPolicy.named) fun p _ => p]
  stray := .refuse
  blank := .warn

/-- A layout as a record. -/
def layoutRecord : Record Source.Layout where
  title := "struct RenderOptions"
  fields :=
    [.optional "indent" Decoder.text fun s l => { l with indent := s },
     .optional "doc_comments" Decoder.boolean fun b l => { l with docComments := b },
     .optional "auto_generated_header" Decoder.boolean fun b l => { l with header := b }]
  stray := .refuse
  blank := .standard

/-- The choice whether units are cached as a record. -/
def cachingRecord : Record Bool where
  title := "struct CacheConfig"
  fields := [.optional "enabled" Decoder.boolean fun b _ => b]
  stray := .refuse
  blank := true

/-- A configuration as a record. -/
def asRecord : Record Configuration where
  title := "struct GeneratorConfig"
  fields :=
    [.optional "engines" (Decoder.listOf (Decoder.choice Engine.named)) fun l c =>
       { c with engines := l },
     .optional "settings_member" policyRecord.decode fun p c => { c with unresolved := p },
     .optional "output" layoutRecord.decode fun l c => { c with layout := l },
     .optional "cache" cachingRecord.decode fun b c => { c with caching := b }]
  stray := .refuse
  blank := .standard

/-- Decodes a configuration. -/
def decode : Decoder Configuration := asRecord.decode

end Configuration

end DataContract
