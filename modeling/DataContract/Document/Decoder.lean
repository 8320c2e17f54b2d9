import DataContract.Document.Mismatch

/-!
# Decoding documents

A decoder turns a document into a value of a domain type, or says where the document first has the
wrong shape.  The order in which a decoder looks at the parts of a document therefore counts: it is
the order in which they stand in it.

## Forms

The same type may be decoded from documents that are at hand in different forms, and a few rules
depend on the form.

* `Form.tree`: the whole document has been read.
* `Form.stream`: the document is decoded while its text is read, so that a part that cannot be
  used is met where it stands.
* `Form.retained`: the part was set aside, because what it is depended on a later part.
* `Form.configuration`: the document is a configuration file.

## Records and choices

A `Record` describes a table with known names.  It may also be written as a list of its fields in
their order, of which trailing optional ones may be left out.  A choice between names is written as
a string, or as a table with that name as its only entry and no content.
-/

namespace DataContract.Document

/-- How a document is at hand. -/
inductive Form
  | tree
  | stream
  | retained
  | configuration
  deriving DecidableEq, Repr

/-- A decoder for values of the type `α`. -/
abbrev Decoder (α : Type) := Form → Value → Except Mismatch α

/-- How a number with a fraction is shown in a message. -/
def Form.layout : Form → Number.Binary → String
  | .configuration => Number.Binary.plain
  | _ => Number.Binary.compact

/-- The mismatch of a document that is not what was expected. -/
def Value.mismatch (form : Form) (v : Value) (expected : String) : Mismatch :=
  match v with
  | .null => .wrongType .null expected
  | .boolean b => .wrongType (.boolean b) expected
  | .integer n => .wrongType (.integer n) expected
  | .fraction x => .wrongType (.fraction (x.text form.layout)) expected
  | .string s => .wrongType (.string s) expected
  | .moment => .wrongType .map expected
  | .list _ _ => .wrongType .sequence expected
  | .table _ _ => .wrongType .map expected
  | .flawed _ => .malformed

namespace Decoder

variable {α β : Type}

/-- Decodes a string. -/
def text : Decoder String := fun form v =>
  match v with
  | .string s => .ok s
  | v => .error (v.mismatch form "a string")

/-- Decodes a truth value. -/
def boolean : Decoder Bool := fun form v =>
  match v with
  | .boolean b => .ok b
  | v => .error (v.mismatch form "a boolean")

/-- Decodes a list item by item. -/
def listOf (d : Decoder α) : Decoder (List α) := fun form v =>
  match v with
  | .list items flaw => do
    let decoded ← items.mapM (d form)
    if flaw.isSome then .error .malformed else .ok decoded
  | v => .error (v.mismatch form "a sequence")

/-- Decodes a value where null stands for none. -/
def optional (d : Decoder α) : Decoder (Option α) := fun form v =>
  match v with
  | .null => .ok none
  | v => some <$> d form v

/-- Refuses a document that is to be set aside if it is flawed. -/
def retain (v : Value) : Except Mismatch Value :=
  if v.sound then .ok v else .error .malformed

/-! ## Choices -/

/-- The option of a given name. -/
def pick (options : List (String × α)) (name : String) : Except Mismatch α :=
  match options.lookup name with
  | some a => .ok a
  | none => .error (.unknownVariant name (options.map (·.1)))

/-- Refuses content where an option has none.  An empty table counts as none in a part that was
set aside. -/
def noContent (form : Form) (v : Value) : Except Mismatch Unit :=
  match form, v with
  | _, .null => .ok ()
  | .retained, .object [] => .ok ()
  | form, v => .error (v.mismatch form "unit")

/-- Refuses content where an option of a configuration file has none.  An empty table and an empty
list count as none. -/
def noSetting (v : Value) : Except Mismatch Unit :=
  match v with
  | .table [] _ => .ok ()
  | .list [] _ => .ok ()
  | .table _ _ => .error (.choiceContent "expected empty table")
  | .list _ _ => .error (.choiceContent "expected empty array")
  | .boolean _ => .error (.choiceContent "expected table, found boolean")
  | .integer _ => .error (.choiceContent "expected table, found integer")
  | .fraction _ => .error (.choiceContent "expected table, found float")
  | .string _ => .error (.choiceContent "expected table, found string")
  | _ => .error (.choiceContent "expected table, found datetime")

/-- Decodes a choice between named options. -/
def choice (options : List (String × α)) : Decoder α := fun form v =>
  match form, v with
  | _, .string name => pick options name
  | .stream, .table entries flaw =>
    match entries with
    | [] => .error .malformed
    | (name, content) :: rest => do
      let option ← pick options name
      noContent .stream content
      if rest.isEmpty && flaw.isNone then .ok option else .error .malformed
  | .stream, _ => .error .malformed
  | .configuration, .table [(name, content)] _ => do
    let option ← pick options name
    noSetting content
    .ok option
  | .configuration, .table entries _ => .error (.choiceSize entries.length)
  | .configuration, _ => .error .notChoice
  | form, .table [(name, content)] _ => do
    let option ← pick options name
    noContent form content
    .ok option
  | _, .table _ _ => .error (.wrongValue .map "map with a single key")
  | form, v => .error (v.mismatch form "string or map")

end Decoder

/-! ## Records -/

/-- A field of a record: its name, whether it has to be there, and how its value is entered into
a record. -/
structure Field (α : Type) where
  name : String
  required : Bool
  put : Form → Value → α → Except Mismatch α

namespace Field

variable {α β : Type}

/-- A field that has to be there. -/
def due (name : String) (d : Decoder β) (set : β → α → α) : Field α :=
  ⟨name, true, fun form v a => (set · a) <$> d form v⟩

/-- A field that may be left out, in which case the record keeps the value it starts with. -/
def optional (name : String) (d : Decoder β) (set : β → α → α) : Field α :=
  ⟨name, false, fun form v a => (set · a) <$> d form v⟩

end Field

/-- What becomes of an entry whose name is not that of a field: it is refused, passed over, or
entered into the record in some way. -/
inductive Stray (α : Type)
  | refuse
  | ignore
  | keep (put : String → Value → α → Except Mismatch α)

/-- A table with known names: what it is called, its fields in order, what becomes of other
entries, and the record that the fields are entered into. -/
structure Record (α : Type) where
  title : String
  fields : List (Field α)
  stray : Stray α
  blank : α

/-- The name under which a date or a time of day shows where a table is due. -/
def momentName : String := "$__toml_private_datetime"

namespace Record

variable {α : Type}

/-- The names of the fields. -/
def names (r : Record α) : List String := r.fields.map (·.name)

/-- The field of a given name. -/
def field? (r : Record α) (name : String) : Option (Field α) := r.fields.find? (·.name == name)

/-- Enters the entries of a table one after the other, and collects the names of those that are
fields. -/
def enter (r : Record α) (form : Form) :
    List (String × Value) → List String → α → Except Mismatch (α × List String)
  | [], seen, a => .ok (a, seen)
  | (name, v) :: rest, seen, a =>
    match r.field? name with
    | some field =>
      if seen.contains name then .error (.duplicateField name)
      else do
        let a ← field.put form v a
        enter r form rest (name :: seen) a
    | none =>
      match r.stray with
      | .refuse => .error (.unknownField name r.names)
      | .ignore => enter r form rest seen a
      | .keep put => do
        let a ← put name v a
        enter r form rest seen a

/-- Decodes the record from the entries of a table. -/
def ofEntries (r : Record α) (form : Form) (entries : List (String × Value))
    (flaw : Option Flaw) : Except Mismatch α := do
  let (a, seen) ← r.enter form entries [] r.blank
  if flaw.isSome then .error .malformed
  else
    match r.fields.find? fun field => field.required && !seen.contains field.name with
    | some field => .error (.missingField field.name)
    | none => .ok a

/-- Enters items for the given fields one after the other, where `i` items have been entered
already, and returns the items left over. -/
def enterItems (r : Record α) (form : Form) (flaw : Option Flaw) :
    List (Field α) → List Value → Nat → α → Except Mismatch (α × List Value)
  | [], rest, _, a => .ok (a, rest)
  | field :: fields, v :: rest, i, a => do
    let a ← field.put form v a
    enterItems r form flaw fields rest (i + 1) a
  | field :: fields, [], i, a =>
    if flaw.isSome then .error .malformed
    else if field.required then
      .error (.wrongLength i (r.title ++ " with " ++ counted r.fields.length "element"))
    else enterItems r form flaw fields [] (i + 1) a

/-- Decodes the record from the items of a list, which stand for its fields in order. -/
def ofItems (r : Record α) (form : Form) (items : List Value) (flaw : Option Flaw) :
    Except Mismatch α := do
  let (a, rest) ← r.enterItems form flaw r.fields items 0 r.blank
  if flaw.isSome then .error .malformed
  else if rest.isEmpty then .ok a
  else
    match form with
    | .tree => .error (.wrongLength items.length "fewer elements in array")
    | .stream => .error .malformed
    | .retained =>
      .error (.wrongLength items.length (counted r.fields.length "element" ++ " in sequence"))
    | .configuration => .ok a

/-- Decodes the record from a table or from a list. -/
def decode (r : Record α) : Decoder α := fun form v =>
  match v with
  | .table entries flaw => r.ofEntries form entries flaw
  | .list items flaw => r.ofItems form items flaw
  | .moment => r.ofEntries form [(momentName, .moment)] none
  | v => .error (v.mismatch form r.title)

end Record

end DataContract.Document
