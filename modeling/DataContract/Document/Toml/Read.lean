import DataContract.Document.Toml.Scalar
import DataContract.Document.Toml.Text
import DataContract.Document.Toml.Tree

/-!
# Reading TOML

`Toml.read?` reads a configuration file as a document, and fails if the text is none.  The entries
of every table come in the order of their keys.

A file is a list of lines.  A line holds an entry, a header, or nothing, and may end with a comment.
A header says to which table the entries below it belong.  Lists and tables in braces may run over
several lines, and a comma may stand behind their last item.
-/

namespace DataContract.Document.Toml

/-! ## Keys -/

/-- Whether `c` may stand in a key without quotes. -/
def isKeyChar (c : Char) : Bool := c.isAlphanum || c == '_' || c == '-'

/-- One part of a key and what stands behind it. -/
def keyPart? (cs : List Char) : Option (String × List Char) :=
  match cs with
  | '"' :: _ => if startsBlock cs then none else lineString? cs
  | '\'' :: _ => if startsBlock cs then none else lineString? cs
  | cs =>
    match cs.span isKeyChar with
    | ([], _) => none
    | (name, rest) => some (String.ofList name, rest)

/-- The number of tables that may stand inside one another, as lists, in braces or in a key. -/
def depthLimit : Nat := 80

/-- At most `n` parts of a key, separated by points, and what stands behind the key. -/
def keyParts? : Nat → List Char → Option (List String × List Char)
  | 0, _ => none
  | n + 1, cs => do
    let (part, rest) ← keyPart? (skipSpace cs)
    match skipSpace rest with
    | '.' :: rest =>
      let (parts, rest) ← keyParts? n rest
      return (part :: parts, rest)
    | rest => return ([part], rest)

/-- The parts of a key, and what stands behind it. -/
def key? (cs : List Char) : Option (List String × List Char) := keyParts? depthLimit cs

/-- A key, an equals sign, and what stands behind it. -/
def keyAndEquals? (cs : List Char) : Option (List String × List Char) := do
  let (keys, rest) ← key? cs
  match rest with
  | '=' :: rest => return (keys, skipSpace rest)
  | _ => none

/-! ## Values -/

mutual

/-- A value inside `depth` others, and what stands behind it. -/
def value? : Nat → Nat → List Char → Option (Node × List Char)
  | 0, _, _ => none
  | n + 1, depth, cs =>
    match cs with
    | '[' :: rest =>
      if depthLimit ≤ depth then none
      else (items? n (depth + 1) rest).map fun (items, rest) => (.leaf (.array items), rest)
    | '{' :: rest =>
      if depthLimit ≤ depth then none
      else
        (entries? n (depth + 1) (.fresh .braced) rest).map fun (t, rest) => (t.node, rest)
    | '"' :: _ => (string? cs).map fun (s, rest) => (.leaf (.string s), rest)
    | '\'' :: _ => (string? cs).map fun (s, rest) => (.leaf (.string s), rest)
    | cs => (scalar? cs).map fun (v, rest) => (.leaf v, rest)

/-- The items of a list up to its closing bracket, and what stands behind that. -/
def items? : Nat → Nat → List Char → Option (List Value × List Char)
  | 0, _, _ => none
  | n + 1, depth, cs =>
    match skipLines cs.length cs with
    | ']' :: rest => some ([], rest)
    | cs => do
      let (item, rest) ← value? n depth cs
      match skipLines rest.length rest with
      | ',' :: rest =>
        let (items, rest) ← items? n depth rest
        return (item.toValue :: items, rest)
      | ']' :: rest => return ([item.toValue], rest)
      | _ => none

/-- The entries of a table up to its closing brace, entered into one that is being read, and what
stands behind that. -/
def entries? : Nat → Nat → Table → List Char → Option (Table × List Char)
  | 0, _, _, _ => none
  | n + 1, depth, t, cs =>
    match skipLines cs.length cs with
    | '}' :: rest => some (t, rest)
    | cs => do
      let (keys, rest) ← keyAndEquals? cs
      let (v, rest) ← value? n depth rest
      let t ← t.enter keys v
      match skipLines rest.length rest with
      | ',' :: rest => entries? n depth t rest
      | '}' :: rest => return (t, rest)
      | _ => none

end

/-! ## Lines -/

/-- What has been read of a file: its tables, and the path of the table that entries belong to. -/
structure Draft where
  root : Table
  current : List String

namespace Draft

/-- Nothing has been read. -/
def start : Draft := ⟨.fresh .headed, []⟩

/-- The draft with one more entry. -/
def enter (d : Draft) (keys : List String) (n : Node) : Option Draft :=
  (d.root.change false d.current (Table.enter keys n)).map ({ d with root := · })

/-- The draft with one more header. -/
def enterHeader (d : Draft) (keys : List String) (several : Bool) : Option Draft :=
  (if several then d.root.enterElement keys else d.root.enterHeader keys).map (⟨·, keys⟩)

end Draft

/-- What stands behind the key of a header and its closing brackets. -/
def headerEnd? (several : Bool) (cs : List Char) : Option (List Char) :=
  match several, cs with
  | false, ']' :: rest => some rest
  | true, ']' :: ']' :: rest => some rest
  | _, _ => none

/-- The draft behind a line with a header, from behind the opening bracket. -/
def header? (d : Draft) (several : Bool) (cs : List Char) : Option (Draft × List Char) := do
  let (keys, rest) ← key? cs
  let rest ← headerEnd? several rest
  let d ← d.enterHeader keys several
  return (d, rest)

/-- The draft behind a line with an entry. -/
def entry? (d : Draft) (cs : List Char) : Option (Draft × List Char) := do
  let (keys, rest) ← keyAndEquals? cs
  let (v, rest) ← value? (2 * rest.length + 1) 0 rest
  let d ← d.enter keys v
  return (d, rest)

/-- The draft behind a line, and what is left of the line. -/
def line? (d : Draft) (cs : List Char) : Option (Draft × List Char) :=
  match cs with
  | '[' :: '[' :: rest => header? d true rest
  | '[' :: rest => header? d false rest
  | cs => entry? d cs

/-- The draft behind all lines. -/
def lines? : Nat → Draft → List Char → Option Draft
  | 0, _, _ => none
  | n + 1, d, cs =>
    match skipLines (cs.length + 1) cs with
    | [] => some d
    | cs => do
      let (d, rest) ← line? d cs
      match skipComment (skipSpace rest) with
      | [] => return d
      | rest => lines? n d (← afterLineEnd? rest)

/-- The document of a configuration file.  A byte order mark may begin it. -/
def read? (s : String) : Option Value :=
  let cs := s.toList
  let cs := if cs.head? = some '\ufeff' then cs.tail else cs
  (lines? (cs.length + 1) .start cs).map fun d => d.root.node.toValue.sorted

end DataContract.Document.Toml
