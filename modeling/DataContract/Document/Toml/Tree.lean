import DataContract.Document.Value

/-!
# Tables of TOML

A table may be defined bit by bit: by its own header, by headers of tables inside it, and by keys
with several parts.  Which of these may follow which depends on how the table came about.

* A table that was only mentioned by the header of a table inside it may still get a header of its
  own, and by that its entries; or keys with several parts add to it, and from then on it counts as
  made by them.
* A table that was made by keys with several parts is added to by further such keys, and by no
  header of its own.
* A table with a header is added to by the entries below that header, and by headers of tables
  inside it.
* A table written in braces is complete.

Nothing may be defined twice.  An operation on a tree returns none where it would break a rule.
-/

namespace DataContract.Document.Toml

/-- How a table came about. -/
inductive Origin
  /-- By the header of a table inside it. -/
  | mentioned
  /-- By keys with several parts. -/
  | dotted
  /-- By a header of its own. -/
  | headed
  /-- By braces. -/
  | braced
  deriving DecidableEq, Repr

/-- A part of a configuration file that is being read.  Of the tables in `tables`, which have the
same header, the last one comes first. -/
inductive Node
  | leaf (v : Value)
  | table (origin : Origin) (entries : List (String × Node))
  | tables (elements : List Node)
  deriving Repr

/-- A table that is being read. -/
structure Table where
  origin : Origin
  entries : List (String × Node)

namespace Table

/-- A table without entries. -/
def fresh (origin : Origin) : Table := ⟨origin, []⟩

/-- A table as a part. -/
def node (t : Table) : Node := .table t.origin t.entries

/-- The part under a key. -/
def get? (t : Table) (key : String) : Option Node := t.entries.lookup key

/-- The table with a part under a key, in place of one that is there. -/
def put (t : Table) (key : String) (n : Node) : Table :=
  { t with entries := (key, n) :: t.entries.filter (·.1 != key) }

/-- Whether no definition has made the table complete so far. -/
def isOpen (t : Table) : Bool := t.origin == .mentioned || t.origin == .dotted

/-- Changes the table at the end of a path, where `dotted` tells whether the path belongs to a key
with several parts or to a header.  Tables that are missing are made. -/
def change (dotted : Bool) : List String → (Table → Option Table) → Table → Option Table
  | [], f, t => f t
  | key :: path, f, t =>
    match t.get? key with
    | none => do
      let inner ← change dotted path f (fresh (if dotted then .dotted else .mentioned))
      return t.put key inner.node
    | some (.table origin entries) => do
      let inner : Table := ⟨origin, entries⟩
      if origin == .braced || (dotted && !inner.isOpen) then none
      else return t.put key (← change dotted path f inner).node
    | some (.tables (.table origin entries :: others)) => do
      let inner ← change dotted path f ⟨origin, entries⟩
      return t.put key (.tables (inner.node :: others))
    | some _ => none

/-- Enters a part under a key with the given parts.  A key with several parts does not add to a
table with a header, and makes the table that it adds to one of its own. -/
def enter (keys : List String) (n : Node) (t : Table) : Option Table :=
  match keys.getLast? with
  | none => none
  | some key =>
    let dotted := keys.length ≠ 1
    t.change true keys.dropLast fun inner =>
      if (dotted && !inner.isOpen) || (inner.get? key).isSome then none
      else
        let inner := inner.put key n
        some (if dotted then { inner with origin := .dotted } else inner)

/-- Enters a header of a single table. -/
def enterHeader (keys : List String) (t : Table) : Option Table :=
  match keys.getLast? with
  | none => none
  | some key =>
    t.change false keys.dropLast fun inner =>
      match inner.get? key with
      | none => some (inner.put key (fresh .headed).node)
      | some (.table .mentioned entries) => some (inner.put key (.table .headed entries))
      | some _ => none

/-- Enters a header of one of several tables. -/
def enterElement (keys : List String) (t : Table) : Option Table :=
  match keys.getLast? with
  | none => none
  | some key =>
    t.change false keys.dropLast fun inner =>
      match inner.get? key with
      | none => some (inner.put key (.tables [(fresh .headed).node]))
      | some (.tables elements) => some (inner.put key (.tables ((fresh .headed).node :: elements)))
      | some _ => none

end Table

namespace Node

mutual

/-- A part as a document. -/
def toValue : Node → Value
  | leaf v => v
  | table _ entries => .object (valuesOfEntries entries)
  | tables elements => .array (valuesOf elements).reverse

/-- Parts as documents. -/
def valuesOf : List Node → List Value
  | [] => []
  | n :: rest => n.toValue :: valuesOf rest

/-- The parts of a table as documents. -/
def valuesOfEntries : List (String × Node) → List (String × Value)
  | [] => []
  | (key, n) :: rest => (key, n.toValue) :: valuesOfEntries rest

end

end Node

end DataContract.Document.Toml
