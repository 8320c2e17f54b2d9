import DataContract.Configuration
import DataContract.Document.Toml.Read

/-!
# Configuration files

A configuration is written as a TOML file.  It is read in three steps, each of which can fail: the
text becomes a document, the document a configuration, and the configuration has to be valid.

Which file is read is up to a setting of the environment.  Without it, or if it is empty, the
configuration by default holds.
-/

namespace DataContract.Configuration

open Document

/-- The configuration that a text describes. -/
def ofText (text : String) : Except ConfigurationError Configuration := do
  match Toml.read? text with
  | none => .error .malformed
  | some document =>
    let c ← (decode .configuration document).mapError .mismatch
    c.validate
    return c

/-- The configuration in the file of the given name, where `contents` tells what a file holds if it
can be read.  No name or an empty one stands for the configuration by default. -/
def load (file : Option String) (contents : String → Option String) :
    Except ConfigurationError Configuration :=
  match file.filter (!·.isEmpty) with
  | none => .ok .standard
  | some name =>
    match contents name with
    | some text => ofText text
    | none => .error .unreadable

end DataContract.Configuration
