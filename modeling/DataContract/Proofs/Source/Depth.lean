import DataContract.Proofs.Source.Lines

/-!
# The depth of a line is told by the braces before it

The writer keeps its depth by the braces that it opens and closes, and a brace that is closed at the
top takes nothing back.  So it might be that the depth of a line is not the number of braces that are
open where it stands.  But every brace that is closed was opened before, whatever the tree is.

* `Leads d ls e` --- along the lines `ls` the depth goes from `d` to `e`.  It rises behind a line
  that is an opening brace and falls at a line that is a closing one, and a depth that is zero does
  not fall.  All other lines, those of documentation among them, leave it as it is.
* `Node.leads_lines` --- the lines of a part of a tree lead back to the depth that they start at.
  The induction follows the tree.  What has to be checked is that no line but a brace reads as a
  brace, whatever the names in the tree are (`leads_of_longer`).
* `Writer.node?` is the writer again, but fails where it would close a brace at the top.  It never
  does (`Writer.node?_eq`): the writer is back at the depth behind the opening brace when the block
  ends, because all that is inside comes back to the depth that it starts at.
* `laid_out_by_lines` --- every layout writes the same lines.
-/

namespace DataContract.Source

open Declaration

/-! ## Depths along lines -/

/-- Along the lines the depth goes from the first number to the last. -/
inductive Leads : Nat → List Line → Nat → Prop
  | nil (depth : Nat) : Leads depth [] depth
  | open_ {depth last : Nat} {rest : List Line} (h : Leads (depth + 1) rest last) :
      Leads depth (code depth "\x7b" :: rest) last
  | close {depth last : Nat} {rest : List Line} (h : Leads depth rest last) :
      Leads (depth + 1) (code depth "\x7d" :: rest) last
  | plain {l : Line} {last : Nat} {rest : List Line} (hopen : l.text ≠ "\x7b")
      (hclose : l.text ≠ "\x7d") (h : Leads l.depth rest last) : Leads l.depth (l :: rest) last

variable {ls ls' : List Line} {depth between last : Nat}

theorem Leads.append (h : Leads depth ls between) (h' : Leads between ls' last) :
    Leads depth (ls ++ ls') last := by
  induction h with
  | nil => exact h'
  | open_ _ ih => exact .open_ (ih h')
  | close _ ih => exact .close (ih h')
  | plain hopen hclose _ ih => exact .plain hopen hclose (ih h')

/-- A block leads back to where it starts if what is inside it does, one level down. -/
theorem Leads.braced (h : Leads (depth + 1) ls (depth + 1)) :
    Leads depth (braced depth ls) depth := by
  rw [Source.braced, List.cons_append]
  exact .open_ (h.append (.close (.nil depth)))

/-- A text that is longer than a brace is none. -/
theorem not_brace_of_longer {text : String} (h : 1 < text.utf8ByteSize) :
    text ≠ "\x7b" ∧ text ≠ "\x7d" := by
  constructor <;> rintro rfl <;> exact absurd h (by decide)

/-- A line that is longer than a brace. -/
theorem Leads.code_cons {text : String} (htext : 1 < text.utf8ByteSize)
    (h : Leads depth ls last) : Leads depth (code depth text :: ls) last :=
  .plain (l := code depth text) (not_brace_of_longer htext).1 (not_brace_of_longer htext).2 h

/-- An empty line is no brace. -/
theorem Leads.blankLine_cons (h : Leads depth ls last) :
    Leads depth (blankLine depth :: ls) last :=
  .plain (l := blankLine depth) (by simp [blankLine, code]) (by simp [blankLine, code]) h

/-- Lines at one depth, all of which are longer than a brace. -/
theorem leads_of_longer (h : ∀ l ∈ ls, l.depth = depth ∧ 1 < l.text.utf8ByteSize) :
    Leads depth ls depth := by
  induction ls with
  | nil => exact .nil depth
  | cons l ls ih =>
    obtain ⟨rfl, hlonger⟩ := h l (List.mem_cons_self ..)
    exact .plain (not_brace_of_longer hlonger).1 (not_brace_of_longer hlonger).2
      (ih fun l hl => h l (List.mem_cons_of_mem _ hl))

/-! ## The lines of a tree -/

theorem longer_append {text : String} (h : 1 < text.utf8ByteSize) (rest : String) :
    1 < (text ++ rest).utf8ByteSize := by
  rw [String.utf8ByteSize_append]
  omega

theorem longer_headerText (h : TypeHeader) : 1 < (headerText h).utf8ByteSize := by
  have hkeyword : 1 < h.kind.keyword.utf8ByteSize := by
    cases h.kind <;> decide
  rw [headerText]
  split
  · exact longer_append (longer_append hkeyword _) _
  · simp only [String.utf8ByteSize_append]
    omega

theorem longer_signature (m : Method) : 1 < m.signature.utf8ByteSize := by
  have hkind : 1 < (if m.kind.isStatic then "public static " else "public ").utf8ByteSize := by
    split <;> decide
  rw [Method.signature]
  exact longer_append (longer_append (longer_append (longer_append (longer_append (longer_append
    hkind _) _) _) _) _) _

theorem Statement.leads_lines (depth : Nat) (s : Statement) : Leads depth (s.lines depth) depth := by
  cases s with
  | throwIfNull parameter =>
    have hif : 1 < "if (".utf8ByteSize := by decide
    have hthrow : 1 < "throw new ".utf8ByteSize := by decide
    exact ((Leads.nil _).code_cons (longer_append (longer_append (longer_append (longer_append hthrow
      _) _) _) _)).braced.code_cons (longer_append (longer_append hif _) _)
  | constructSerializer serializer target settings =>
    have hserializer : 1 < "var serializer = ".utf8ByteSize := by decide
    have hchoice : 1 < "var serializer = settings is not null ? new ".utf8ByteSize := by decide
    have hsettings : 1 < "var settings = ".utf8ByteSize := by decide
    cases settings with
    | none => exact (Leads.nil _).code_cons (longer_append (longer_append hserializer _) _)
    | some settings =>
      exact ((Leads.nil _).code_cons (longer_append (longer_append (longer_append (longer_append
        (longer_append (longer_append hchoice _) _) _) _) _) _)).code_cons
          (longer_append (longer_append hsettings _) _)
  | writeObject stream subject =>
    have hwrite : 1 < "serializer.WriteObject(".utf8ByteSize := by decide
    exact (Leads.nil _).code_cons (longer_append (longer_append (longer_append (longer_append hwrite
      _) _) _) _)
  | readObject stream target =>
    have hread : 1 < "return serializer.ReadObject(".utf8ByteSize := by decide
    exact (Leads.nil _).code_cons (longer_append (longer_append (longer_append (longer_append hread
      _) _) _) _)
  | forward method arguments =>
    -- the name of the method may be empty, so it is the end of the line that counts
    have hend : 1 < ");".utf8ByteSize := by decide
    refine (Leads.nil _).code_cons ?_
    rw [String.utf8ByteSize_append]
    omega

theorem leads_statementLines (depth : Nat) (guarded : Bool) (ss : List Statement) :
    Leads depth (statementLines depth guarded ss) depth := by
  induction ss generalizing guarded with
  | nil => exact .nil depth
  | cons s ss ih =>
    have hblank : Leads depth (if guarded && !s.isGuard then [blankLine depth] else []) depth := by
      split
      · exact (Leads.nil depth).blankLine_cons
      · exact .nil depth
    exact (hblank.append (s.leads_lines depth)).append (ih s.isGuard)

theorem longer_docLine (depth : Nat) (text : String) :
    1 < (docLine depth text).text.utf8ByteSize := by
  have hslashes : 1 < "/// ".utf8ByteSize := by decide
  exact longer_append hslashes text

theorem Documentation.leads_lines (depth : Nat) (d : Documentation) :
    Leads depth (d.lines depth) depth := by
  refine leads_of_longer fun l hl => ?_
  obtain ⟨text, rfl⟩ := Documentation.eq_docLine_of_mem_lines hl
  exact ⟨rfl, longer_docLine depth text⟩

theorem Method.leads_lines (depth : Nat) (m : Method) : Leads depth (m.lines depth) depth :=
  (m.documentation.leads_lines depth).append
    ((leads_statementLines (depth + 1) false m.body).braced.code_cons (longer_signature m))

mutual

/-- **The lines of a part of a tree lead back to the depth that they start at.** -/
theorem Node.leads_lines (depth : Nat) (node : Node) : Leads depth (node.lines depth) depth := by
  match node with
  | .space name body =>
    have hspace : 1 < "namespace ".utf8ByteSize := by decide
    exact (leads_bodyLines (depth + 1) body).braced.code_cons (longer_append hspace name)
  | .type header body =>
    exact (leads_bodyLines (depth + 1) body).braced.code_cons (longer_headerText header)
  | .method m => exact m.leads_lines depth

theorem leads_bodyLines (depth : Nat) (body : List Node) :
    Leads depth (bodyLines depth body) depth := by
  match body with
  | [] => exact .nil depth
  | [node] => exact node.leads_lines depth
  | node :: next :: rest =>
    exact (node.leads_lines depth).append (leads_bodyLines depth (next :: rest)).blankLine_cons

end

/-! ## A writer that checks where it closes -/

namespace Writer

/-- Closes a brace, but fails at the top. -/
def closeBrace? (w : Writer) : Option Writer :=
  if w.depth = 0 then none else some w.closeBrace

/-- Writes a statement, but fails where a brace is closed at the top. -/
def statement? (w : Writer) : Statement → Option Writer
  | .throwIfNull p =>
    let w := (w.line ("if (" ++ p ++ " is null)")).openBrace
    (w.line ("throw new " ++ argumentNullException ++ "(nameof(" ++ p ++ "));")).closeBrace?
  | s => some (w.statement s)

/-- Writes statements, but fails where a brace is closed at the top. -/
def statements? : Writer → Bool → List Statement → Option Writer
  | w, _, [] => some w
  | w, guarded, s :: rest => do
    let w := if guarded && !s.isGuard then w.line "" else w
    let w ← w.statement? s
    w.statements? s.isGuard rest

/-- Writes a method, but fails where a brace is closed at the top. -/
def method? (layout : Layout) (w : Writer) (m : Method) : Option Writer := do
  let w := if layout.docComments then w.documentation m.documentation else w
  let w ← (w.line m.signature).openBrace.statements? false m.body
  w.closeBrace?

mutual

/-- Writes a part of a tree, but fails where a brace is closed at the top. -/
def node? (layout : Layout) (w : Writer) : Node → Option Writer
  | .space name body => do
    let w ← items? layout (w.line ("namespace " ++ name)).openBrace 0 body
    w.closeBrace?
  | .type header body => do
    let w ← items? layout (w.line (headerText header)).openBrace 0 body
    w.closeBrace?
  | .method m => w.method? layout m

/-- Writes the parts of a body, but fails where a brace is closed at the top. -/
def items? (layout : Layout) (w : Writer) (index : Nat) : List Node → Option Writer
  | [] => some w
  | n :: rest => do
    let w := if 0 < index then w.line "" else w
    let w ← node? layout w n
    items? layout w (index + 1) rest

end

variable (layout : Layout)

theorem closeBrace?_of_depth_eq {w : Writer} {depth : Nat} (h : w.depth = depth + 1) :
    w.closeBrace? = some w.closeBrace := by
  rw [closeBrace?, if_neg (by omega)]

theorem statement?_eq (w : Writer) (s : Statement) : w.statement? s = some (w.statement s) := by
  cases s with
  | throwIfNull p => exact closeBrace?_of_depth_eq (show _ = w.depth + 1 from rfl)
  | _ => rfl

theorem statements?_eq (w : Writer) (guarded : Bool) (ss : List Statement) :
    w.statements? guarded ss = some (w.statements guarded ss) := by
  induction ss generalizing w guarded with
  | nil => rfl
  | cons s ss ih =>
    rw [statements?, statement?_eq, Option.bind_eq_bind, Option.bind_some, ih, statements]

theorem method?_eq (w : Writer) (m : Method) : w.method? layout m = some (w.method layout m) := by
  have hdepth : ∀ v : Writer,
      (v.openBrace.statements false m.body).depth = v.depth + 1 := by
    intro v
    rw [statements_eq layout]
    rfl
  rw [method?, statements?_eq, Option.bind_eq_bind, Option.bind_some,
    closeBrace?_of_depth_eq (hdepth _), method]

/-- The parts of a body come back to the depth that they start at. -/
theorem depth_items (w : Writer) (index : Nat) (body : List Node) :
    (w.items layout index body).depth = w.depth := by
  rw [items_eq]
  rfl

mutual

/-- **No brace is closed at the top.** -/
theorem node?_eq (w : Writer) (n : Node) : w.node? layout n = some (w.node layout n) := by
  match n with
  | .space name body =>
    -- Behind the body the writer is one level below the line of the namespace again.
    rw [node?, items?_eq, Option.bind_eq_bind, Option.bind_some,
      closeBrace?_of_depth_eq (depth_items layout _ 0 body), node]
  | .type header body =>
    rw [node?, items?_eq, Option.bind_eq_bind, Option.bind_some,
      closeBrace?_of_depth_eq (depth_items layout _ 0 body), node]
  | .method m => exact w.method?_eq layout m

theorem items?_eq (w : Writer) (index : Nat) (body : List Node) :
    w.items? layout index body = some (w.items layout index body) := by
  match body with
  | [] => rfl
  | n :: rest =>
    rw [items?, node?_eq, Option.bind_eq_bind, Option.bind_some, items?_eq, items]

end

end Writer

/-! ## Every layout writes the same lines -/

/-- **Every layout writes the same lines.**  A tree has one list of lines, along which the depth goes
from zero to zero.  Every layout writes these lines, behind the header of generated files if it wants
one, and leaves out none of them but documentation if it wants none.  The writer comes back to the
top, and it never closes a brace from there. -/
theorem laid_out_by_lines (root : Node) : ∃ ls : List Line, Leads 0 ls 0 ∧ ∀ layout : Layout,
    root.render layout =
        (if layout.header then "// <auto-generated/>\n#nullable enable\n\n" else "") ++
          String.join ((ls.filter fun l => layout.docComments || !l.isDoc).map fun l =>
            (if l.text = "" then "" else String.join (List.replicate l.depth layout.indent) ++ l.text)
              ++ "\n") ∧
      (Writer.start layout).node? layout root = some ((Writer.start layout).node layout root) ∧
      ((Writer.start layout).node layout root).depth = 0 := by
  refine ⟨root.lines 0, root.leads_lines 0, fun layout => ⟨?_, ?_, ?_⟩⟩
  · have hline : ∀ l : Line, l.layOut layout.indent =
        (if l.text = "" then "" else String.join (List.replicate l.depth layout.indent) ++ l.text)
          ++ "\n" := by
      intro l
      simp only [Line.layOut, String.isEmpty_iff]
    rw [render_eq, Layout.write]
    simp only [← hline]
  · exact Writer.node?_eq layout (Writer.start layout) root
  · rw [Writer.node_eq, Writer.start_eq]
    rfl

end DataContract.Source
