import DataContract.Document.Value
import DataContract.Text.Quoted

/-!
# Documents of the wrong shape

A `Mismatch` says in what respect a document is not of the shape that was asked for, and
`Mismatch.message` puts it into words.  What was found instead is described by its kind, and by
its value where that is short.
-/

namespace DataContract.Document

/-- What was found in place of what was expected. -/
inductive Found
  | null
  | boolean (b : Bool)
  | integer (n : Int)
  | fraction (text : String)
  | string (s : String)
  | sequence
  | map
  deriving DecidableEq, Repr

/-- In what respect a document has the wrong shape. -/
inductive Mismatch
  /-- The text is no document at this place. -/
  | malformed
  | missingField (name : String)
  | duplicateField (name : String)
  | unknownField (name : String) (known : List String)
  | unknownVariant (name : String) (known : List String)
  | wrongType (found : Found) (expected : String)
  | wrongValue (found : Found) (expected : String)
  | wrongLength (length : Nat) (expected : String)
  /-- None of several forms that a value may take fits. -/
  | noForm (type : String)
  | unknownModifier (word : String)
  /-- A configuration file has neither a string nor a table where a choice is due. -/
  | notChoice
  /-- A table in place of a choice has this number of entries. -/
  | choiceSize (size : Nat)
  /-- A choice carries content of this description, though it has none. -/
  | choiceContent (text : String)
  deriving DecidableEq, Repr

namespace Found

/-- The words for what was found. -/
def message : Found → String
  | null => "null"
  | boolean b => s!"boolean `{b}`"
  | integer n => s!"integer `{n}`"
  | fraction text => s!"floating point `{text}`"
  | string s => "string " ++ Text.quoted s
  | sequence => "sequence"
  | map => "map"

end Found

/-- The words for a choice between names. -/
def oneOf (names : List String) : String :=
  let quoted := names.map fun name => s!"`{name}`"
  match quoted with
  | [] => "none"
  | [a] => a
  | [a, b] => a ++ " or " ++ b
  | _ => "one of " ++ String.intercalate ", " quoted

/-- A number of things of one sort. -/
def counted (n : Nat) (one : String) : String :=
  if n = 1 then s!"1 {one}" else s!"{n} {one}s"

namespace Mismatch

/-- The words for a mismatch. -/
def message : Mismatch → String
  | malformed => "malformed document"
  | missingField name => s!"missing field `{name}`"
  | duplicateField name => s!"duplicate field `{name}`"
  | unknownField name known => s!"unknown field `{name}`, expected {oneOf known}"
  | unknownVariant name known => s!"unknown variant `{name}`, expected {oneOf known}"
  | wrongType found expected => s!"invalid type: {found.message}, expected {expected}"
  | wrongValue found expected => s!"invalid value: {found.message}, expected {expected}"
  | wrongLength length expected => s!"invalid length {length}, expected {expected}"
  | noForm type => s!"data did not match any variant of untagged enum {type}"
  | unknownModifier word => s!"unknown modifier `{word}`"
  | notChoice => "wanted string or table"
  | choiceSize 0 => "wanted exactly 1 element, found 0 elements"
  | choiceSize _ => "wanted exactly 1 element, more than 1 element"
  | choiceContent text => text

end Mismatch

end DataContract.Document
