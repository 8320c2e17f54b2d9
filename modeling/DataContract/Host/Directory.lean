import DataContract.Declaration.Decode
import DataContract.Document.Json.Read
import DataContract.Host
import DataContract.Text.Split

/-!
# Hosts over a directory

A directory host takes its candidates from a snapshot, a list of candidates in JSON, and writes
every declaration and every unit to a file named after it.  A later file of the same name takes the
place of an earlier one.

A name with slashes is a path that begins in the directory of the host.  It may lead to that
directory again, or to one that holds it; no other directory is known to exist.  Names that no file
can have are refused.
-/

namespace DataContract

open Declaration Document

/-! ## Paths -/

/-- Where a path leads: how many levels above the directory of a host, and to which name there. -/
structure FilePlace where
  level : Nat
  name : String
  deriving DecidableEq, Repr

namespace FilePlace

/-- Whether a file can have a name: it has at most 255 bytes, and is none of the names that stand
for directories. -/
def isFileName (name : String) : Bool :=
  name.utf8ByteSize ≤ 255 && !(["", ".", ".."].contains name)

/-- The level that a directory in a path leads to.  The directory of a host is named `out`. -/
def enter? (level : Nat) (directory : String) : Option Nat :=
  if directory = "" || directory = "." then some level
  else if directory = ".." then some (level + 1)
  else if directory = "out" && level = 1 then some 0
  else none

/-- Where a path leads, if it leads to a file.  A path has less than 4096 bytes, and the character
zero is not among them. -/
def ofPath? (path : String) : Option FilePlace :=
  let parts := (Text.splitWhere (· == '/') path.toList).map String.ofList
  if 4096 ≤ path.utf8ByteSize || path.toList.contains '\x00' || path.toList.head? = some '/' then
    none
  else
    match parts.getLast?, parts.dropLast.foldlM enter? 0 with
    | some name, some level => if isFileName name then some ⟨level, name⟩ else none
    | _, _ => none

end FilePlace

/-! ## Hosts -/

/-- A host that writes files: its candidates, the files in its directory with their contents, the
names of the files in the order in which they were written, and the diagnostics. -/
structure DirectoryHost where
  candidates : List Candidate
  files : List (String × String)
  written : List String
  diagnostics : Diagnostics
  deriving DecidableEq, Repr

/-- Why a directory host cannot be opened. -/
inductive OpenError
  /-- The snapshot cannot be read, or the directory cannot be made. -/
  | inaccessible
  /-- The snapshot has the wrong shape. -/
  | mismatch (m : Mismatch)
  /-- The snapshot is not JSON. -/
  | malformed
  deriving DecidableEq, Repr

namespace DirectoryHost

/-- A host that has written nothing. -/
def ofCandidates (candidates : List Candidate) : DirectoryHost := ⟨candidates, [], [], []⟩

/-- The candidates of a snapshot. -/
def snapshot (text : String) : Except OpenError (List Candidate) :=
  match (Json.read text).decode (Decoder.listOf Candidate.decode) with
  | .ok candidates => .ok candidates
  | .error .malformed => .error .malformed
  | .error m => .error (.mismatch m)

/-- The host for a snapshot, where `blocked` tells that the directory cannot be made.  The snapshot
is read first. -/
def fromSnapshot (text : String) (blocked : Bool) : Except OpenError DirectoryHost := do
  let candidates ← snapshot text
  if blocked then .error .inaccessible else .ok (.ofCandidates candidates)

/-- The host for a snapshot that may be missing and need not be text. -/
def fromBytes (bytes : Option ByteArray) (blocked : Bool) : Except OpenError DirectoryHost :=
  match bytes.bind String.fromUTF8? with
  | some text => fromSnapshot text blocked
  | none => .error .inaccessible

/-- The files with one more, which takes the place of an earlier one of its name. -/
def putFile (files : List (String × String)) (name content : String) : List (String × String) :=
  files.filter (·.1 != name) ++ [(name, content)]

/-- Writes a file. -/
def write (h : DirectoryHost) (path content : String) : Except HostError Unit × DirectoryHost :=
  match FilePlace.ofPath? path with
  | some place =>
    (.ok (),
      { h with
        files := if place.level = 0 then putFile h.files place.name content else h.files
        written := h.written ++ [place.name] })
  | none => (.error (.unwritable path), h)

end DirectoryHost

instance : Host DirectoryHost where
  candidates h := h.candidates
  register d h := h.write (UnitName.sourceFile d.name) d.source
  submit u h := h.write u.name.fileName u.source
  report d h := { h with diagnostics := h.diagnostics ++ [d] }

end DataContract
