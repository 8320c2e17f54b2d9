import DataContract.Generation

/-!
# Hosts

A host supplies candidates and takes what is generated for them: the declarations of the markers,
which come first, then units and diagnostics.  It may refuse a declaration or a unit.  What a host
has been given becomes part of its state, and so may the fact that it has refused something.
-/

namespace DataContract

open Declaration

/-- Why a host does not take something. -/
inductive HostError
  | refused
  /-- A file that cannot be written. -/
  | unwritable (file : String)
  deriving DecidableEq, Repr

/-- The words for an error, where there are any. -/
def HostError.message? : HostError → Option String
  | refused => some "i/o error on 'host': refused"
  | unwritable _ => none

/-- What a host does with its state. -/
class Host (H : Type) where
  /-- The candidates that the host offers. -/
  candidates : H → List Candidate
  /-- Takes the declaration of a marker. -/
  register : Engine.MarkerDeclaration → H → Except HostError Unit × H
  /-- Takes a unit. -/
  submit : GeneratedUnit → H → Except HostError Unit × H
  /-- Takes a diagnostic. -/
  report : Diagnostic → H → H

end DataContract
