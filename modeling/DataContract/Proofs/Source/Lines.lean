import DataContract.Source.Rendering

/-!
# The lines of a tree

The writer takes the layout along wherever it goes, so it might seem that a layout can change what a
tree says.  It cannot.  A tree has a list of lines, each with its depth, its text and whether it
documents a method, and this list does not depend on a layout.  The layout decides which of the lines
are written and how a line is indented, and nothing else.

* `Node.lines` --- the lines of a part of a tree at a depth.
* `Layout.write` --- what a layout writes of lines.
* `Writer.add` --- a writer behind lines.  Every function of the writer adds the lines of what it
  writes, at the depth that the writer has, and comes back to this depth.  A block does so because
  the brace that closes it takes back what the one that opens it did
  (`Writer.closeBrace_add_openBrace`).  Documentation that the layout does not want is not written
  at all, and nothing would be written of its lines either (`Layout.write_documentation_eq_empty`).
* `Writer.node_eq` --- so does the writing of any part of a tree, by induction on the tree.
* `render_eq` --- the text of a tree is what is written of its lines.
-/

namespace DataContract.Source

open Declaration

/-! ## Lines -/

/-- A line of source text before layout. -/
structure Line where
  depth : Nat
  text : String
  isDoc : Bool
  deriving DecidableEq, Repr

/-- A line of code. -/
def code (depth : Nat) (text : String) : Line := ⟨depth, text, false⟩

/-- An empty line. -/
def blankLine (depth : Nat) : Line := code depth ""

/-- A line of documentation. -/
def docLine (depth : Nat) (text : String) : Line := ⟨depth, "/// " ++ text, true⟩

/-- The lines of a block between its braces. -/
def braced (depth : Nat) (inner : List Line) : List Line :=
  code depth "\x7b" :: inner ++ [code depth "\x7d"]

/-- The lines of a statement. -/
def Statement.lines (depth : Nat) : Statement → List Line
  | throwIfNull p =>
    code depth ("if (" ++ p ++ " is null)") ::
      braced depth
        [code (depth + 1) ("throw new " ++ argumentNullException ++ "(nameof(" ++ p ++ "));")]
  | constructSerializer serializer target none =>
    [code depth ("var serializer = " ++ construction serializer target ++ ";")]
  | constructSerializer serializer target (some settings) =>
    [code depth ("var settings = " ++ settings ++ ";"),
     code depth ("var serializer = settings is not null ? new " ++ serializer ++ "(typeof(" ++
       target ++ "), settings) : " ++ construction serializer target ++ ";")]
  | writeObject stream subject =>
    [code depth ("serializer.WriteObject(" ++ stream ++ ", " ++ subject ++ ");")]
  | readObject stream target =>
    [code depth ("return serializer.ReadObject(" ++ stream ++ ") is " ++ target ++
      " deserialized ? deserialized : default;")]
  | forward method arguments =>
    [code depth (method ++ "(" ++ String.intercalate ", " arguments ++ ");")]

/-- The lines of statements, where an empty line stands between a guard and what is none, and
`guarded` tells whether a guard came before. -/
def statementLines (depth : Nat) : Bool → List Statement → List Line
  | _, [] => []
  | guarded, s :: rest =>
    (if guarded && !s.isGuard then [blankLine depth] else []) ++ s.lines depth ++
      statementLines depth s.isGuard rest

/-- The lines that document a method. -/
def Documentation.lines (depth : Nat) (d : Documentation) : List Line :=
  [docLine depth "<summary>", docLine depth d.summary, docLine depth "</summary>"] ++
    (d.parameters.map fun (name, text) =>
      docLine depth ("<param name=\"" ++ name ++ "\">" ++ text ++ "</param>")) ++
    (match d.returns with
      | some text => [docLine depth ("<returns>" ++ text ++ "</returns>")]
      | none => []) ++
    if d.throwsFor.isEmpty then []
    else
      let names := d.throwsFor.map fun p => "<paramref name=\"" ++ p ++ "\"/>"
      [docLine depth ("<exception cref=\"" ++ argumentNullException ++ "\">Thrown when " ++
        String.intercalate " or " names ++ " is <see langword=\"null\"/>.</exception>")]

/-- The lines of a method. -/
def Method.lines (depth : Nat) (m : Method) : List Line :=
  m.documentation.lines depth ++
    code depth m.signature :: braced depth (statementLines (depth + 1) false m.body)

mutual

/-- The lines of a part of a tree. -/
def Node.lines (depth : Nat) : Node → List Line
  | .space name body =>
    code depth ("namespace " ++ name) :: braced depth (bodyLines (depth + 1) body)
  | .type header body =>
    code depth (headerText header) :: braced depth (bodyLines (depth + 1) body)
  | .method m => m.lines depth

/-- The lines of the parts of a body, separated by empty lines. -/
def bodyLines (depth : Nat) : List Node → List Line
  | [] => []
  | [node] => node.lines depth
  | node :: rest => node.lines depth ++ blankLine depth :: bodyLines depth rest

end

/-- Documentation consists of lines of documentation. -/
theorem Documentation.eq_docLine_of_mem_lines {depth : Nat} {d : Documentation} {l : Line}
    (h : l ∈ d.lines depth) : ∃ text, l = docLine depth text := by
  rw [Documentation.lines, List.mem_append, List.mem_append, List.mem_append] at h
  rcases h with ((hsummary | hparameter) | hreturns) | hthrows
  · simp only [List.mem_cons, List.not_mem_nil, or_false] at hsummary
    rcases hsummary with rfl | rfl | rfl <;> exact ⟨_, rfl⟩
  · obtain ⟨parameter, -, rfl⟩ := List.mem_map.mp hparameter
    exact ⟨_, rfl⟩
  · split at hreturns
    · exact ⟨_, List.mem_singleton.mp hreturns⟩
    · cases hreturns
  · split at hthrows
    · cases hthrows
    · exact ⟨_, List.mem_singleton.mp hthrows⟩

/-! ## Layout -/

/-- A line as text, with its indentation unless it is empty. -/
def Line.layOut (indent : String) (l : Line) : String :=
  (if l.text.isEmpty then "" else String.join (List.replicate l.depth indent) ++ l.text) ++ "\n"

namespace Layout

variable (layout : Layout)

/-- What a layout writes of lines. -/
def write (ls : List Line) : String :=
  String.join ((ls.filter fun l => layout.docComments || !l.isDoc).map (Line.layOut layout.indent))

theorem write_nil : layout.write [] = "" := rfl

theorem write_append (ls ls' : List Line) :
    layout.write (ls ++ ls') = layout.write ls ++ layout.write ls' := by
  rw [write, List.filter_append, List.map_append, String.join_append, write, write]

/-- A line that is written comes first. -/
theorem write_cons {l : Line} (hl : (layout.docComments || !l.isDoc) = true) (ls : List Line) :
    layout.write (l :: ls) = l.layOut layout.indent ++ layout.write ls := by
  have hfilter : (l :: ls).filter (fun l => layout.docComments || !l.isDoc) =
      l :: ls.filter fun l => layout.docComments || !l.isDoc :=
    List.filter_cons_of_pos hl
  rw [write, hfilter, List.map_cons, String.join_cons, write]

/-- Nothing is written of documentation that the layout does not want. -/
theorem write_documentation_eq_empty {layout : Layout} (hdoc : layout.docComments = false)
    (depth : Nat) (d : Documentation) : layout.write (d.lines depth) = "" := by
  have hnone : (d.lines depth).filter (fun l => layout.docComments || !l.isDoc) = [] := by
    rw [List.filter_eq_nil_iff]
    intro l hl
    obtain ⟨text, rfl⟩ := Documentation.eq_docLine_of_mem_lines hl
    simp [hdoc, docLine]
  rw [write, hnone]
  rfl

end Layout

/-! ## The writer -/

namespace Writer

variable (layout : Layout) (w : Writer)

/-- The writer behind lines, which are laid out with its own indentation. -/
def add (ls : List Line) : Writer :=
  { w with written := w.written ++ { layout with indent := w.indent }.write ls }

@[simp] theorem depth_add (ls : List Line) : (w.add layout ls).depth = w.depth := rfl

theorem add_nil : w.add layout [] = w := by
  rw [add, Layout.write_nil, String.append_empty]

theorem add_add (ls ls' : List Line) :
    (w.add layout ls).add layout ls' = w.add layout (ls ++ ls') := by
  simp only [add, Layout.write_append, String.append_assoc]

theorem repeat_append (indent written : String) (depth : Nat) :
    Nat.repeat (· ++ indent) depth written =
      written ++ String.join (List.replicate depth indent) := by
  induction depth with
  | zero => exact String.append_empty.symm
  | succ depth ih =>
    show Nat.repeat (· ++ indent) depth written ++ indent = _
    rw [ih, List.replicate_succ', String.join_append, String.join_cons, String.join_nil,
      String.append_empty, String.append_assoc]

/-- A line is written as it is laid out. -/
theorem written_line (text : String) (isDoc : Bool) :
    w.line text =
      { w with written := w.written ++ (Line.mk w.depth text isDoc).layOut w.indent } := by
  rw [line, Line.layOut, repeat_append]
  cases text.isEmpty with
  | true => rw [if_pos rfl, if_pos rfl, String.empty_append]
  | false =>
    simp only [Bool.false_eq_true, if_false, String.append_assoc]

/-- A line of code is written in every layout. -/
theorem line_eq (text : String) : w.line text = w.add layout [code w.depth text] := by
  rw [w.written_line text false, add, Layout.write_cons _ (by simp [code]), Layout.write_nil,
    String.append_empty]
  rfl

/-- A line of documentation is written in a layout with documentation. -/
theorem line_eq_docLine {layout : Layout} (hdoc : layout.docComments = true) {line text : String}
    (hline : line = "/// " ++ text) : w.line line = w.add layout [docLine w.depth text] := by
  rw [w.written_line line true, hline, add, Layout.write_cons _ (by simp [hdoc]), Layout.write_nil,
    String.append_empty]
  rfl

/-- An empty line that is written on a condition. -/
theorem if_line_empty (c : Prop) [Decidable c] :
    (if c then w.line "" else w) = w.add layout (if c then [blankLine w.depth] else []) := by
  split
  · exact w.line_eq layout ""
  · exact (w.add_nil layout).symm

/-- **A block comes back to the depth that it starts at**, since there is a brace to close. -/
theorem closeBrace_add_openBrace (ls : List Line) :
    (w.openBrace.add layout ls).closeBrace = w.add layout (braced w.depth ls) := by
  have hclose : ∀ v : Writer, v.depth = w.depth + 1 →
      v.closeBrace = { v with depth := w.depth }.add layout [code w.depth "\x7d"] := by
    intro v hv
    rw [closeBrace, line_eq layout, hv]
    rfl
  rw [hclose _ rfl, openBrace, w.line_eq layout]
  -- The depth goes down and up again, so the three parts are added at the depth of the writer.
  show ((w.add layout [code w.depth "\x7b"]).add layout ls).add layout [code w.depth "\x7d"] = _
  rw [add_add, add_add, braced]
  rfl

/-- A statement is written by its lines. -/
theorem statement_eq (s : Statement) : w.statement s = w.add layout (s.lines w.depth) := by
  cases s with
  | throwIfNull p =>
    rw [statement, line_eq layout, line_eq layout, closeBrace_add_openBrace, add_add]
    rfl
  | constructSerializer serializer target settings =>
    cases settings with
    | none => exact w.line_eq layout _
    | some settings =>
      rw [statement, line_eq layout, line_eq layout, add_add]
      rfl
  | writeObject stream subject => exact w.line_eq layout _
  | readObject stream target => exact w.line_eq layout _
  | forward method arguments => exact w.line_eq layout _

/-- Statements are written by their lines. -/
theorem statements_eq (guarded : Bool) (ss : List Statement) :
    w.statements guarded ss = w.add layout (statementLines w.depth guarded ss) := by
  induction ss generalizing w guarded with
  | nil => exact (w.add_nil layout).symm
  | cons s ss ih =>
    rw [statements, if_line_empty layout, ih, statement_eq layout, add_add, add_add, statementLines,
      List.append_assoc]
    rfl

/-- Lines of documentation, one for each element of a list. -/
theorem foldl_line_eq {layout : Layout} (hdoc : layout.docComments = true) {α : Type}
    {line text : α → String} (hline : ∀ a, line a = "/// " ++ text a) (as : List α) :
    as.foldl (fun w a => w.line (line a)) w =
      w.add layout (as.map fun a => docLine w.depth (text a)) := by
  induction as generalizing w with
  | nil => exact (w.add_nil layout).symm
  | cons a as ih =>
    rw [List.foldl_cons, w.line_eq_docLine hdoc (hline a), ih, add_add]
    rfl

/-- Documentation is written by its lines, in a layout that wants it. -/
theorem documentation_eq {layout : Layout} (hdoc : layout.docComments = true) (d : Documentation) :
    w.documentation d = w.add layout (d.lines w.depth) := by
  have hsummary : ((w.line "/// <summary>").line ("/// " ++ d.summary)).line "/// </summary>" =
      w.add layout [docLine w.depth "<summary>", docLine w.depth d.summary,
        docLine w.depth "</summary>"] := by
    have hopen : "/// <summary>" = "/// " ++ "<summary>" := by decide
    have hclose : "/// </summary>" = "/// " ++ "</summary>" := by decide
    rw [line_eq_docLine _ hdoc hopen, line_eq_docLine _ hdoc rfl, line_eq_docLine _ hdoc hclose,
      add_add, add_add]
    rfl
  have hparameters : ∀ v : Writer, d.parameters.foldl (fun w (name, text) =>
        w.line ("/// <param name=\"" ++ name ++ "\">" ++ text ++ "</param>")) v =
      v.add layout (d.parameters.map fun (name, text) =>
        docLine v.depth ("<param name=\"" ++ name ++ "\">" ++ text ++ "</param>")) := by
    intro v
    have hopen : "/// <param name=\"" = "/// " ++ "<param name=\"" := by decide
    refine v.foldl_line_eq hdoc (fun p => ?_) d.parameters
    simp only [hopen, String.append_assoc]
  have hreturns : ∀ (v : Writer) (text : String),
      v.line ("/// <returns>" ++ text ++ "</returns>") =
        v.add layout [docLine v.depth ("<returns>" ++ text ++ "</returns>")] := by
    intro v text
    have hopen : "/// <returns>" = "/// " ++ "<returns>" := by decide
    exact v.line_eq_docLine hdoc (by simp only [hopen, String.append_assoc])
  have hthrows : ∀ (v : Writer) (names : String),
      v.line ("/// <exception cref=\"" ++ argumentNullException ++ "\">Thrown when " ++ names ++
          " is <see langword=\"null\"/>.</exception>") =
        v.add layout [docLine v.depth ("<exception cref=\"" ++ argumentNullException ++
          "\">Thrown when " ++ names ++ " is <see langword=\"null\"/>.</exception>")] := by
    intro v names
    have hopen : "/// <exception cref=\"" = "/// " ++ "<exception cref=\"" := by decide
    exact v.line_eq_docLine hdoc (by simp only [hopen, String.append_assoc])
  rw [documentation, Documentation.lines]
  cases d.returns <;> cases d.throwsFor.isEmpty <;>
    simp [hsummary, hparameters, hreturns, hthrows, add_add]

/-- A method is written by its lines. -/
theorem method_eq (m : Method) : w.method layout m = w.add layout (m.lines w.depth) := by
  have hdocumentation : (if layout.docComments then w.documentation m.documentation else w) =
      w.add layout (m.documentation.lines w.depth) := by
    cases hdoc : layout.docComments with
    | true => exact w.documentation_eq hdoc m.documentation
    | false =>
      have hown : { layout with indent := w.indent }.docComments = false := hdoc
      have hwrite := Layout.write_documentation_eq_empty hown w.depth m.documentation
      rw [add, hwrite, String.append_empty]
      rfl
  rw [method, hdocumentation, line_eq layout, statements_eq layout, closeBrace_add_openBrace,
    add_add, add_add]
  rfl

/-- The lines of a body, part by part. -/
theorem bodyLines_cons (depth : Nat) (n : Node) (rest : List Node) :
    bodyLines depth (n :: rest) =
      n.lines depth ++ ((if rest = [] then [] else [blankLine depth]) ++ bodyLines depth rest) := by
  cases rest with
  | nil => simp [bodyLines]
  | cons next rest => simp [bodyLines]

mutual

/-- **A part of a tree is written by its lines.** -/
theorem node_eq (v : Writer) (n : Node) : v.node layout n = v.add layout (n.lines v.depth) := by
  match n with
  | .space name body =>
    rw [node, line_eq layout, items_eq, closeBrace_add_openBrace, add_add]
    rfl
  | .type header body =>
    rw [node, line_eq layout, items_eq, closeBrace_add_openBrace, add_add]
    rfl
  | .method m => exact v.method_eq layout m

/-- The parts of a body are written by their lines, behind an empty line if there were parts
before. -/
theorem items_eq (v : Writer) (index : Nat) (body : List Node) : v.items layout index body =
    v.add layout ((if 0 < index ∧ body ≠ [] then [blankLine v.depth] else []) ++
      bodyLines v.depth body) := by
  match body with
  | [] =>
    rw [if_neg (by simp)]
    exact (v.add_nil layout).symm
  | n :: rest =>
    -- The writer looks back for an empty line, at the index, and the lines look ahead, at the rest.
    rw [items, if_line_empty layout, node_eq, items_eq, add_add, add_add, bodyLines_cons]
    simp

end

/-- The header of generated files is not indented. -/
theorem start_eq : start layout =
    ⟨if layout.header then "// <auto-generated/>\n#nullable enable\n\n" else "",
      layout.indent, 0⟩ := by
  rw [start]
  cases layout.header <;> rfl

end Writer

/-- **The text of a tree is what is written of its lines**, behind the header of generated files. -/
theorem render_eq (layout : Layout) (root : Node) :
    root.render layout =
      (if layout.header then "// <auto-generated/>\n#nullable enable\n\n" else "") ++
        layout.write (root.lines 0) := by
  rw [Node.render, Writer.node_eq, Writer.start_eq]
  rfl

end DataContract.Source
