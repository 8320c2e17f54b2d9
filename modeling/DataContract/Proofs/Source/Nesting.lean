import DataContract.Proofs.Source.Lines
import DataContract.Source.Synthesis
import Mathlib.Data.List.Basic

/-!
# The text of a unit

A candidate stands on the innermost of several levels: a namespace, if it has one, and the types
around it.  A unit opens these levels again.  Its tree is built from the inside out and written
from the outside in, and here the text that comes of it is given at one go (`unitText`): the lines
that open the levels, the methods, and the lines that close the levels in reverse.

* `nested` are lines inside levels.  Both kinds of wrapping come to this (`lines_wrapInTypes`,
  `lines_wrapInNamespace`), and levels inside levels are levels (`nested_append`).
* `Layout.write_nested` --- what a layout writes of nested lines, by induction on the levels.
* `Method.lines_add` --- the lines of a method deeper down are its lines moved to the right, so
  its text is known on its own (`methodText`).
* `render_synthesize` --- the text of a unit.
-/

namespace DataContract.Source

open Declaration

/-! ## The text -/

/-- The line that opens a type: its modifiers, its kind, and its name with the type parameters. -/
def typeLine (h : TypeHeader) : String :=
  String.intercalate " " (h.modifiers.map Modifier.keyword ++ [h.kind.keyword, h.reference])

/-- The lines that open the levels of a candidate, of which it is itself the innermost. -/
def levels (c : Candidate) : List String :=
  ((c.within.map Namespace.canonical).filter (!·.isEmpty)).toList.map ("namespace " ++ ·) ++
    c.chain.map typeLine

/-- A text as a line at a depth. -/
def lineAt (indent : String) (depth : Nat) (text : String) : String :=
  String.join (List.replicate depth indent) ++ text ++ "\n"

/-- The text that opens levels, the first of which is at the given depth. -/
def openings (indent : String) (depth : Nat) (levels : List String) : String :=
  String.join ((levels.zipIdx depth).map fun (text, depth) =>
    lineAt indent depth text ++ lineAt indent depth "\x7b")

theorem openings_cons (indent : String) (depth : Nat) (level : String) (levels : List String) :
    openings indent depth (level :: levels) =
      lineAt indent depth level ++ lineAt indent depth "\x7b" ++
        openings indent (depth + 1) levels := by
  rw [openings, List.zipIdx_cons, List.map_cons, String.join_cons, openings]

/-- The text that closes so many levels, the first of which is at the given depth. -/
def closings (indent : String) (depth count : Nat) : String :=
  String.join ((List.range' depth count).reverse.map fun depth => lineAt indent depth "\x7d")

/-- A line as text, moved to the right unless it is empty. -/
def Line.moved (indent : String) (depth : Nat) (l : Line) : String :=
  (if l.text.isEmpty then "" else String.join (List.replicate depth indent)) ++ l.layOut indent

/-- The text of a method, moved to the right. -/
def methodText (layout : Layout) (depth : Nat) (m : Method) : String :=
  String.join (((m.lines 0).filter fun l => layout.docComments || !l.isDoc).map
    (Line.moved layout.indent depth))

/-- The text of the unit for a candidate. -/
def unitText (layout : Layout) (c : Candidate) (e : Engine) (r : Resolution) : String :=
  let methods := (if r.instanceWriter then [instanceWriter e] else []) ++
    [staticWriter c.header e r, staticReader c.header e r]
  (if layout.header then "// <auto-generated/>\n#nullable enable\n\n" else "") ++
    openings layout.indent 0 (levels c) ++
    String.intercalate "\n" (methods.map (methodText layout (levels c).length)) ++
    closings layout.indent 0 (levels c).length

/-! ## Headers -/

/-- The line that is written for a type is the one that opens it. -/
theorem headerText_eq (h : TypeHeader) : headerText h = typeLine h := by
  have hdeclaration : String.intercalate " " [h.kind.keyword, h.reference] =
      h.kind.keyword ++ " " ++ h.reference := by
    rw [String.intercalate_cons_cons, String.intercalate_singleton]
  rw [headerText, typeLine, Modifiers.text, ← hdeclaration]
  cases hms : h.modifiers with
  | nil => rfl
  | cons m ms =>
    rw [List.map_cons, String.intercalate_append_of_ne_nil (List.cons_ne_nil _ _)
      (List.cons_ne_nil _ _)]
    rfl

theorem typeLine_ne_empty (h : TypeHeader) : typeLine h ≠ "" := by
  rw [← headerText_eq, headerText]
  split <;> simp

/-! ## Nested lines -/

/-- Lines inside levels. -/
def nested : List String → Nat → (Nat → List Line) → List Line
  | [], depth, inner => inner depth
  | level :: rest, depth, inner =>
    code depth level :: braced depth (nested rest (depth + 1) inner)

/-- Levels inside levels are levels. -/
theorem nested_append (outer levels : List String) (depth : Nat) (inner : Nat → List Line) :
    nested (outer ++ levels) depth inner =
      nested outer depth fun depth => nested levels depth inner := by
  induction outer generalizing depth with
  | nil => rfl
  | cons level outer ih => rw [List.cons_append, nested, ih, nested]

/-- A type has the lines of its body inside one level. -/
theorem lines_type (h : TypeHeader) (body : List Node) (depth : Nat) :
    (Node.type h body).lines depth =
      nested [typeLine h] depth fun depth => bodyLines depth body := by
  rw [Node.lines, headerText_eq]
  rfl

/-- A part in types has its lines inside their levels. -/
theorem lines_wrapInTypes (headers : List TypeHeader) (inner : Node) (depth : Nat) :
    (wrapInTypes headers inner).lines depth = nested (headers.map typeLine) depth inner.lines := by
  induction headers generalizing depth with
  | nil => rfl
  | cons h headers ih =>
    show (Node.type h [wrapInTypes headers inner]).lines depth = _
    rw [lines_type, List.map_cons, nested, nested, nested, bodyLines, ih]

/-- So does a part in a namespace, unless there is none. -/
theorem lines_wrapInNamespace (n : Option Namespace) (inner : Node) (depth : Nat) :
    (wrapInNamespace n inner).lines depth =
      nested (((n.map Namespace.canonical).filter (!·.isEmpty)).toList.map ("namespace " ++ ·)) depth
        inner.lines := by
  cases n with
  | none => rfl
  | some n =>
    rw [wrapInNamespace, Option.map_some, Option.filter_some]
    cases n.canonical.isEmpty <;> rfl

/-- **The lines of a tree** are the body of the candidate inside its levels. -/
theorem lines_wrapped (c : Candidate) (body : List Node) (depth : Nat) :
    (wrapInNamespace c.within (wrapInTypes c.enclosing (.type c.header body))).lines depth =
      nested (levels c) depth fun depth => bodyLines depth body := by
  have hinner : (wrapInTypes c.enclosing (.type c.header body)).lines =
      fun depth => nested (c.chain.map typeLine) depth fun depth => bodyLines depth body := by
    funext depth
    rw [lines_wrapInTypes, Candidate.chain, List.map_append, nested_append]
    exact congrArg (nested _ depth) (funext (lines_type c.header body))
  rw [lines_wrapInNamespace, levels, nested_append, hinner]

/-- No level is opened by an empty line. -/
theorem ne_empty_of_mem_levels {c : Candidate} {level : String} (h : level ∈ levels c) :
    level ≠ "" := by
  rw [levels, List.mem_append, List.mem_map, List.mem_map] at h
  rcases h with ⟨name, -, rfl⟩ | ⟨header, -, rfl⟩
  · simp
  · exact typeLine_ne_empty header

/-! ## Methods further down -/

/-- A line further down. -/
def Line.deeper (n : Nat) (l : Line) : Line := { l with depth := n + l.depth }

theorem map_deeper_braced (n depth : Nat) (inner : List Line) :
    (braced depth inner).map (Line.deeper n) = braced (n + depth) (inner.map (Line.deeper n)) := by
  rw [braced, List.map_append, List.map_cons]
  rfl

theorem Statement.lines_add (n depth : Nat) (s : Statement) :
    s.lines (n + depth) = (s.lines depth).map (Line.deeper n) := by
  cases s with
  | constructSerializer serializer target settings => cases settings <;> rfl
  | _ => rfl

theorem statementLines_add (n depth : Nat) (guarded : Bool) (ss : List Statement) :
    statementLines (n + depth) guarded ss =
      (statementLines depth guarded ss).map (Line.deeper n) := by
  induction ss generalizing guarded with
  | nil => rfl
  | cons s ss ih =>
    rw [statementLines, statementLines, ih, List.map_append, List.map_append, s.lines_add]
    cases guarded && !s.isGuard <;> rfl

theorem Documentation.lines_add (n depth : Nat) (d : Documentation) :
    d.lines (n + depth) = (d.lines depth).map (Line.deeper n) := by
  rw [Documentation.lines, Documentation.lines, List.map_append, List.map_append, List.map_append,
    List.map_map]
  cases d.returns <;> cases d.throwsFor.isEmpty <;> rfl

/-- **A method further down has its lines moved.** -/
theorem Method.lines_add (n depth : Nat) (m : Method) :
    m.lines (n + depth) = (m.lines depth).map (Line.deeper n) := by
  rw [Method.lines, Method.lines, List.map_append, List.map_cons, map_deeper_braced,
    ← Documentation.lines_add, ← statementLines_add]
  rfl

/-- A line that is moved keeps its text behind its new indentation. -/
theorem Line.layOut_deeper (indent : String) (n : Nat) (l : Line) :
    (l.deeper n).layOut indent = l.moved indent n := by
  rw [Line.moved, Line.layOut, Line.layOut, Line.deeper]
  cases l.text.isEmpty with
  | true => rfl
  | false =>
    simp only [Bool.false_eq_true, if_false, List.replicate_add, String.join_append,
      String.append_assoc]

/-! ## Writing -/

theorem Line.layOut_of_ne_empty (indent : String) {l : Line} (hl : l.text ≠ "") :
    l.layOut indent = lineAt indent l.depth l.text := by
  have hempty : l.text.isEmpty = false := by simpa using hl
  rw [layOut, hempty, lineAt]
  rfl

namespace Layout

variable (layout : Layout)

/-- A line of code is always written. -/
theorem write_code_cons {text : String} (htext : text ≠ "") (depth : Nat) (ls : List Line) :
    layout.write (code depth text :: ls) = lineAt layout.indent depth text ++ layout.write ls := by
  rw [layout.write_cons (by simp [code]), Line.layOut_of_ne_empty _ htext]
  rfl

/-- An empty line has no indentation. -/
theorem write_blankLine_cons (depth : Nat) (ls : List Line) :
    layout.write (blankLine depth :: ls) = "\n" ++ layout.write ls := by
  rw [layout.write_cons (by simp [blankLine, code])]
  rfl

/-- **What is written of nested lines**: the levels are opened, and closed in reverse. -/
theorem write_nested {levels : List String} (hlevels : ∀ level ∈ levels, level ≠ "") (depth : Nat)
    (inner : Nat → List Line) :
    layout.write (nested levels depth inner) =
      openings layout.indent depth levels ++ layout.write (inner (depth + levels.length)) ++
        closings layout.indent depth levels.length := by
  induction levels generalizing depth with
  | nil => simp [nested, openings, closings]
  | cons level levels ih =>
    have hlevel := hlevels level (List.mem_cons_self ..)
    have hclosings : closings layout.indent depth (levels.length + 1) =
        closings layout.indent (depth + 1) levels.length ++ lineAt layout.indent depth "\x7d" := by
      rw [closings, List.range'_succ, List.reverse_cons, List.map_append, String.join_append,
        closings]
      simp
    have hlast : layout.write [code depth "\x7d"] = lineAt layout.indent depth "\x7d" := by
      rw [write_code_cons _ (by decide)]
      exact String.append_empty
    rw [nested, braced, write_code_cons _ hlevel, List.cons_append, write_code_cons _ (by decide),
      write_append, ih (fun l hl => hlevels l (List.mem_cons_of_mem _ hl)), hlast, openings_cons,
      List.length_cons, hclosings, Nat.add_assoc, Nat.add_comm 1]
    simp only [String.append_assoc]

/-- A method is written as its own text, moved. -/
theorem write_method (depth : Nat) (m : Method) :
    layout.write (m.lines depth) = methodText layout depth m := by
  rw [write, methodText, ← Nat.add_zero depth, m.lines_add, List.filter_map, List.map_map]
  congr 2
  exact funext (Line.layOut_deeper layout.indent depth)

/-- Methods are separated by one empty line. -/
theorem write_methods (depth : Nat) (ms : List Method) :
    layout.write (bodyLines depth (ms.map .method)) =
      String.intercalate "\n" (ms.map (methodText layout depth)) := by
  induction ms with
  | nil => rfl
  | cons m ms ih =>
    cases ms with
    | nil => rw [List.map_singleton, List.map_singleton, bodyLines, Node.lines, write_method,
        String.intercalate_singleton]
    | cons next ms =>
      have hrest : (next :: ms).map (methodText layout depth) ≠ [] := List.cons_ne_nil _ _
      have hlines : bodyLines depth ((m :: next :: ms).map .method) = m.lines depth ++
          blankLine depth :: bodyLines depth ((next :: ms).map .method) := rfl
      rw [hlines, write_append, write_method, write_blankLine_cons, ih, ← String.append_assoc]
      exact (String.intercalate_cons_of_ne_nil hrest).symm

end Layout

/-! ## A unit -/

/-- **The text of a unit**, for a candidate inside any number of types all of which can be
continued. -/
theorem render_synthesize {c : Candidate} (hopen : ∀ h ∈ c.enclosing, h.modifiers.isPartial = true)
    (e : Engine) (r : Resolution) (layout : Layout) :
    (synthesize c e r).map (Node.render layout) = .ok (unitText layout c e r) := by
  have hclosed : closedScope? c = none := by
    rw [closedScope?, List.find?_eq_none]
    intro h hh
    simp [hopen h hh]
  have hlevels : ∀ level ∈ levels c, level ≠ "" := fun _ => ne_empty_of_mem_levels
  have hwritten := layout.write_nested hlevels 0 fun depth =>
    bodyLines depth ((methodsFor c.header e r).map .method)
  rw [synthesize, hclosed]
  refine congrArg Except.ok ?_
  rw [render_eq, lines_wrapped, hwritten, Layout.write_methods, Nat.zero_add, unitText, methodsFor]
  simp only [String.append_assoc]

/-- A record inside two types and a namespace. -/
def boxed : Candidate where
  header := ⟨"Settings", .record, [.public_, .sealed, .partial_], []⟩
  attributes := []
  members := []
  enclosing :=
    [⟨"Program", .class_, [.static, .partial_], []⟩, ⟨"Box", .struct, [.partial_], ["T"]⟩]
  within := some ⟨"Demo. App"⟩

theorem levels_boxed : levels boxed = ["namespace Demo.App", "static partial class Program",
    "partial struct Box<T>", "public sealed partial record Settings"] := by
  decide

/-- What a marker asks for that wants all three methods. -/
def forwarding : Resolution := { Resolution.standard with instanceWriter := true }

/-- Its methods are four levels deep. -/
theorem render_synthesize_boxed : (∀ h ∈ boxed.enclosing, h.modifiers.isPartial = true) ∧
    (synthesize boxed .json forwarding).map (Node.render ⟨" ", false, true⟩) =
      .ok ("// <auto-generated/>\n#nullable enable\n\n" ++
        ("namespace Demo.App\n\x7b\n static partial class Program\n \x7b\n" ++
          "  partial struct Box<T>\n  \x7b\n   public sealed partial record Settings\n   \x7b\n") ++
        String.intercalate "\n" ([instanceWriter .json, staticWriter boxed.header .json forwarding,
          staticReader boxed.header .json forwarding].map (methodText ⟨" ", false, true⟩ 4)) ++
        "   \x7d\n  \x7d\n \x7d\n\x7d\n") := by
  have hopen : ∀ h ∈ boxed.enclosing, h.modifiers.isPartial = true := by decide
  have hopenings : openings " " 0 (levels boxed) =
      "namespace Demo.App\n\x7b\n static partial class Program\n \x7b\n" ++
        "  partial struct Box<T>\n  \x7b\n   public sealed partial record Settings\n   \x7b\n" := by
    rw [levels_boxed]
    decide
  have hclosings : closings " " 0 (levels boxed).length = "   \x7d\n  \x7d\n \x7d\n\x7d\n" := by
    decide
  refine ⟨hopen, (render_synthesize hopen .json forwarding ⟨" ", false, true⟩).trans ?_⟩
  rw [unitText, hopenings, hclosings]
  rfl

end DataContract.Source
