import DataContract.Source.Layout
import DataContract.Source.Tree

/-!
# Source text

A tree is written from the top down by a writer that keeps what it has written so far and how deep
it is.  The layout goes along with it: it says whether methods are documented, and its indentation
stands in front of every line that is not empty, once for each level.
-/

namespace DataContract.Source

open Declaration

/-! ## Texts -/

/-- The type of the streams that generated methods write to and read from. -/
def streamType : String := "global::System.IO.Stream"

/-- The exception that guards throw. -/
def argumentNullException : String := "global::System.ArgumentNullException"

/-- The line that opens a type again. -/
def headerText (h : TypeHeader) : String :=
  let declaration := h.kind.keyword ++ " " ++ h.reference
  if h.modifiers.isEmpty then declaration else h.modifiers.text ++ " " ++ declaration

/-- The expression that makes a serializer. -/
def construction (serializerType targetType : String) : String :=
  "new " ++ serializerType ++ "(typeof(" ++ targetType ++ "))"

/-- The line that begins a method. -/
def Method.signature (m : Method) : String :=
  let parameters := m.parameters.map fun p => p.type ++ " " ++ p.name
  (if m.kind.isStatic then "public static " else "public ") ++ m.returnType ++ " " ++ m.name ++
    "(" ++ String.intercalate ", " parameters ++ ")"

/-! ## The writer -/

/-- A writer: what has been written, the text that indents by one level, and the depth of the line
that comes next. -/
structure Writer where
  written : String
  indent : String
  depth : Nat
  deriving DecidableEq, Repr

namespace Writer

/-- Writes a line, with its indentation unless it is empty. -/
def line (w : Writer) (text : String) : Writer :=
  let written :=
    if text.isEmpty then w.written else Nat.repeat (· ++ w.indent) w.depth w.written ++ text
  { w with written := written ++ "\n" }

/-- Writes an opening brace and goes one level down. -/
def openBrace (w : Writer) : Writer :=
  let w := w.line "\x7b"
  { w with depth := w.depth + 1 }

/-- Goes one level up, unless it is at the top, and writes a closing brace. -/
def closeBrace (w : Writer) : Writer :=
  { w with depth := w.depth - 1 }.line "\x7d"

/-- Writes a statement. -/
def statement (w : Writer) : Statement → Writer
  | .throwIfNull p =>
    let w := (w.line ("if (" ++ p ++ " is null)")).openBrace
    (w.line ("throw new " ++ argumentNullException ++ "(nameof(" ++ p ++ "));")).closeBrace
  | .constructSerializer serializer target none =>
    w.line ("var serializer = " ++ construction serializer target ++ ";")
  | .constructSerializer serializer target (some settings) =>
    (w.line ("var settings = " ++ settings ++ ";")).line
      ("var serializer = settings is not null ? new " ++ serializer ++ "(typeof(" ++ target ++
        "), settings) : " ++ construction serializer target ++ ";")
  | .writeObject stream subject =>
    w.line ("serializer.WriteObject(" ++ stream ++ ", " ++ subject ++ ");")
  | .readObject stream target =>
    w.line ("return serializer.ReadObject(" ++ stream ++ ") is " ++ target ++
      " deserialized ? deserialized : default;")
  | .forward method arguments =>
    w.line (method ++ "(" ++ String.intercalate ", " arguments ++ ");")

/-- Writes statements, with an empty line between a guard and what is none.  The flag tells whether a
guard came before. -/
def statements : Writer → Bool → List Statement → Writer
  | w, _, [] => w
  | w, guarded, s :: rest =>
    let w := if guarded && !s.isGuard then w.line "" else w
    (w.statement s).statements s.isGuard rest

/-- Writes the documentation of a method. -/
def documentation (w : Writer) (d : Documentation) : Writer :=
  let w := ((w.line "/// <summary>").line ("/// " ++ d.summary)).line "/// </summary>"
  let w := d.parameters.foldl (fun w (name, text) =>
    w.line ("/// <param name=\"" ++ name ++ "\">" ++ text ++ "</param>")) w
  let w := match d.returns with
    | some text => w.line ("/// <returns>" ++ text ++ "</returns>")
    | none => w
  if d.throwsFor.isEmpty then w
  else
    let names := d.throwsFor.map fun p => "<paramref name=\"" ++ p ++ "\"/>"
    w.line ("/// <exception cref=\"" ++ argumentNullException ++ "\">Thrown when " ++
      String.intercalate " or " names ++ " is <see langword=\"null\"/>.</exception>")

/-- Writes a method. -/
def method (layout : Layout) (w : Writer) (m : Method) : Writer :=
  let w := if layout.docComments then w.documentation m.documentation else w
  ((w.line m.signature).openBrace.statements false m.body).closeBrace

mutual

/-- Writes a part of a tree. -/
def node (layout : Layout) (w : Writer) : Node → Writer
  | .space name body => (items layout (w.line ("namespace " ++ name)).openBrace 0 body).closeBrace
  | .type header body => (items layout (w.line (headerText header)).openBrace 0 body).closeBrace
  | .method m => w.method layout m

/-- Writes the parts of a body from the one with this index on, with an empty line before every part
but the first. -/
def items (layout : Layout) (w : Writer) (index : Nat) : List Node → Writer
  | [] => w
  | n :: rest =>
    let w := if 0 < index then w.line "" else w
    items layout (node layout w n) (index + 1) rest

end

/-- The writer at the top of a file, behind the header of generated files if there is one. -/
def start (layout : Layout) : Writer :=
  let w : Writer := ⟨"", layout.indent, 0⟩
  if layout.header then ((w.line "// <auto-generated/>").line "#nullable enable").line "" else w

end Writer

/-- The text of a tree. -/
def Node.render (layout : Layout) (root : Node) : String :=
  (Writer.node layout (Writer.start layout) root).written

end DataContract.Source
