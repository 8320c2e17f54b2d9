import DataContract.Number.Fraction

/-!
# Documents

A document is a tree of scalars, lists and tables.  The same tree holds a snapshot of
declarations, a configuration file and every request, and a table keeps its entries in the order
in which they were written.

## Documents that are not quite sound

A snapshot is decoded while it is read, so a mistake in its shape that comes before a mistake in
its writing is the one to report.  A reader therefore always answers with a tree, and marks in it
where the writing went wrong.

* `Flaw.garbled` marks something that can be passed over but not used: a string with half a
  surrogate pair in it, a number out of range, or a list nested too deeply.
* `Flaw.broken` marks the place from which on the text is no document at all.

A list or a table that is flawed in itself, and not only in one of its items, ends there and
carries the flaw.
-/

namespace DataContract.Document

open DataContract.Number

/-- How a part of a text fails to be a document. -/
inductive Flaw
  | garbled
  | broken
  deriving DecidableEq, Repr

/-- A document.  A `moment` is a date or a time of day, which only configuration files have. -/
inductive Value
  | null
  | boolean (b : Bool)
  | integer (n : Int)
  | fraction (x : Fraction)
  | string (s : String)
  | moment
  | list (items : List Value) (flaw : Option Flaw)
  | table (entries : List (String × Value)) (flaw : Option Flaw)
  | flawed (flaw : Flaw)
  deriving Repr

instance : Inhabited Value := ⟨.null⟩

namespace Value

/-- A list without a flaw of its own. -/
@[match_pattern] abbrev array (items : List Value) : Value := .list items none

/-- A table without a flaw of its own. -/
@[match_pattern] abbrev object (entries : List (String × Value)) : Value := .table entries none

mutual

/-- Whether no part of a document is flawed. -/
def sound : Value → Bool
  | .list items flaw => flaw.isNone && soundItems items
  | .table entries flaw => flaw.isNone && soundEntries entries
  | .flawed _ => false
  | _ => true

/-- Whether no part of any item of a list is flawed. -/
def soundItems : List Value → Bool
  | [] => true
  | v :: rest => v.sound && soundItems rest

/-- Whether no part of any value in a table is flawed. -/
def soundEntries : List (String × Value) → Bool
  | [] => true
  | (_, v) :: rest => v.sound && soundEntries rest

end

/-- The value under a name in a table, which is null if there is none. -/
def get (v : Value) (name : String) : Value :=
  match v with
  | .table entries _ => (entries.lookup name).getD .null
  | _ => .null

/-- The text of a string. -/
def text? : Value → Option String
  | .string s => some s
  | _ => none

/-- A text, or null where there is none. -/
def optionalText : Option String → Value
  | some s => .string s
  | none => .null

/-- A list of texts. -/
def texts (items : List String) : Value := .array (items.map .string)

/-- A natural number. -/
def natural (n : Nat) : Value := .integer n

/-! ## Tables in the order of their names -/

/-- Puts an entry at its place in a table sorted by name, in place of an entry of the same
name. -/
def insertEntry (entry : String × Value) : List (String × Value) → List (String × Value)
  | [] => [entry]
  | head :: rest =>
    if entry.1 < head.1 then entry :: head :: rest
    else if entry.1 = head.1 then entry :: rest
    else head :: insertEntry entry rest

mutual

/-- The document with the entries of every table sorted by name, where of several entries of one
name the last counts. -/
def sorted : Value → Value
  | .list items flaw => .list (sortedItems items) flaw
  | .table entries flaw => .table (sortedEntries entries []) flaw
  | v => v

/-- The items of a list, each with its tables sorted. -/
def sortedItems : List Value → List Value
  | [] => []
  | v :: rest => v.sorted :: sortedItems rest

/-- The entries of a table, put one after the other into those that are sorted already. -/
def sortedEntries : List (String × Value) → List (String × Value) → List (String × Value)
  | [], done => done
  | (name, v) :: rest, done => sortedEntries rest (insertEntry (name, v.sorted) done)

end

end Value

end DataContract.Document
