import DataContract.Proofs.Source.Depth
import DataContract.Proofs.Source.Headers

/-!
# What the source of a unit tells

The source of a unit opens the types around a candidate again, and it is only right if it opens these
and no others.  So it has to tell which they are.  Two units with the same text, laid out alike, are
read side by side from the top:

* Every line that begins something does so with modifiers and a word that tells what it is
  (`Starts`).  At one depth the same indentation stands before it, whatever the layout indents by.
* As long as both texts go on with a type, it is the same type, by its line, and the brace behind it
  leads one level down.  When one of them goes on with a method, the other one does too
  (`chain_eq_of_openings_eq`).  The line of a namespace comes first or not at all.
* The first method tells the engine.  Its documentation is the same in both texts unless one of them
  has a writer on the instance and the other has none, and in this case the documentation tells, or
  without it the word `static` (`engine_eq_of_firstMethod_eq`).

`reopened_eq_of_render_eq` says that the engines, the namespaces and the types are equal.
-/

namespace DataContract.Source

open Declaration

/-! ## The first line -/

/-- The text begins, at a depth, with a line that begins with these modifiers and this word. -/
def Starts (indent : String) (depth : Nat) (ms : Modifiers) (word : String) (text : List Char) :
    Prop :=
  ∃ rest, text = (String.join (List.replicate depth indent)).toList ++ lead ms word rest

section Lines

variable {indent : String} {depth : Nat}

theorem Starts.inj {ms ms' : Modifiers} {word word' : String} {text : List Char}
    (hword : word ∈ leadWords) (hword' : word' ∈ leadWords) (h : Starts indent depth ms word text)
    (h' : Starts indent depth ms' word' text) : ms = ms' ∧ word = word' := by
  obtain ⟨rest, htext⟩ := h
  obtain ⟨rest', htext'⟩ := h'
  have hlead := List.append_cancel_left (htext.symm.trans htext')
  obtain ⟨hmodifiers, hwords, -⟩ := lead_inj hword hword' hlead
  exact ⟨hmodifiers, hwords⟩

theorem toList_lineAt (indent : String) (depth : Nat) (text : String) (s : List Char) :
    (lineAt indent depth text).toList ++ s =
      (String.join (List.replicate depth indent)).toList ++ (text.toList ++ '\n' :: s) := by
  simp [lineAt]

/-- Two lines at one depth have the same indentation. -/
theorem line_cancel {text text' : String} {s s' : List Char}
    (h : (lineAt indent depth text).toList ++ s = (lineAt indent depth text').toList ++ s') :
    text.toList ++ '\n' :: s = text'.toList ++ '\n' :: s' := by
  rw [toList_lineAt, toList_lineAt] at h
  exact List.append_cancel_left h

theorem starts_lineAt {ms : Modifiers} {word text : String} {rest s : List Char}
    (h : text.toList ++ '\n' :: s = lead ms word rest) :
    Starts indent depth ms word ((lineAt indent depth text).toList ++ s) :=
  ⟨rest, by rw [toList_lineAt, h]⟩

/-! ## Levels -/

/-- What is behind the line that opens a level, up to the next level. -/
theorem toList_openings_cons (indent : String) (depth : Nat) (level : String) (levels : List String)
    (s : List Char) : (openings indent depth (level :: levels)).toList ++ s =
      (lineAt indent depth level).toList ++ ((lineAt indent depth "\x7b").toList ++
        ((openings indent (depth + 1) levels).toList ++ s)) := by
  simp only [openings_cons, String.toList_append, List.append_assoc]

theorem starts_type (h : TypeHeader) (levels : List String) (s : List Char) :
    Starts indent depth h.modifiers (leadWord h.kind)
      ((openings indent depth (typeLine h :: levels)).toList ++ s) := by
  rw [toList_openings_cons]
  exact starts_lineAt (toList_typeLine h _)

theorem starts_space (segments levels : List String) (s : List Char) :
    Starts indent depth [] "namespace"
      ((openings indent depth (spaceLine segments :: levels)).toList ++ s) := by
  rw [toList_openings_cons]
  exact starts_lineAt (toList_spaceLine segments _)

/-- What begins with a type does not begin with a namespace. -/
theorem types_ne_space {hs : List TypeHeader} (hne : hs ≠ []) (segments levels : List String)
    (s s' : List Char) : (openings indent depth (hs.map typeLine)).toList ++ s ≠
      (openings indent depth (spaceLine segments :: levels)).toList ++ s' := by
  intro heq
  obtain ⟨h, hs, rfl⟩ := List.exists_cons_of_ne_nil hne
  have hspace : Starts indent depth [] "namespace"
      ((openings indent depth ((h :: hs).map typeLine)).toList ++ s) :=
    heq ▸ starts_space segments levels s'
  have hkind : leadWord h.kind ≠ "namespace" := by
    cases h.kind <;> decide
  exact hkind ((starts_type h _ s).inj (leadWord_mem _) (by decide) hspace).2

/-- The text begins with a method. -/
def StartsMethod (indent : String) (depth : Nat) (text : List Char) : Prop :=
  ∃ ms, ∃ word ∈ ["void", "///"], Starts indent depth ms word text

/-- What begins with a type does not begin with a method. -/
theorem not_startsMethod (h : TypeHeader) (levels : List String) (s : List Char) :
    ¬StartsMethod indent depth ((openings indent depth (typeLine h :: levels)).toList ++ s) := by
  rintro ⟨ms, word, hword, hstarts⟩
  have hlead : word ∈ leadWords := by
    have hall : ∀ word ∈ ["void", "///"], word ∈ leadWords := by decide
    exact hall word hword
  have hkind : leadWord h.kind ∉ ["void", "///"] := by
    cases h.kind <;> decide
  have hwords := (hstarts.inj hlead (leadWord_mem _) (starts_type h levels s)).2
  exact hkind (hwords ▸ hword)

/-- **The types are determined**, and so is what is inside the innermost, if that begins with a
method. -/
theorem chain_eq_of_openings_eq {hs hs' : List TypeHeader} {s s' : List Char}
    (hplain : ∀ h ∈ hs, h.isPlain = true) (hplain' : ∀ h ∈ hs', h.isPlain = true)
    (hmethod : StartsMethod indent (depth + hs.length) s)
    (hmethod' : StartsMethod indent (depth + hs'.length) s')
    (heq : (openings indent depth (hs.map typeLine)).toList ++ s =
      (openings indent depth (hs'.map typeLine)).toList ++ s') : hs = hs' ∧ s = s' := by
  induction hs generalizing depth hs' with
  | nil =>
    cases hs' with
    | nil => exact ⟨rfl, List.append_cancel_left heq⟩
    | cons h' hs' =>
      have hstarts : StartsMethod indent depth
          ((openings indent depth ((h' :: hs').map typeLine)).toList ++ s') := heq ▸ hmethod
      exact absurd hstarts (not_startsMethod h' _ s')
  | cons h hs ih =>
    cases hs' with
    | nil =>
      have hstarts : StartsMethod indent depth
          ((openings indent depth ((h :: hs).map typeLine)).toList ++ s) := heq ▸ hmethod'
      exact absurd hstarts (not_startsMethod h _ s)
    | cons h' hs' =>
      rw [List.map_cons, List.map_cons, toList_openings_cons, toList_openings_cons] at heq
      obtain ⟨rfl, hinside⟩ := typeLine_inj (hplain h (List.mem_cons_self ..))
        (hplain' h' (List.mem_cons_self ..)) (line_cancel heq)
      have hdeeper : ∀ hs : List TypeHeader, depth + 1 + hs.length = depth + (h :: hs).length := by
        intro hs
        rw [List.length_cons]
        omega
      obtain ⟨rfl, hs⟩ := ih (fun h hh => hplain h (List.mem_cons_of_mem _ hh))
        (fun h hh => hplain' h (List.mem_cons_of_mem _ hh)) (hdeeper hs ▸ hmethod)
        (hdeeper hs' ▸ hmethod') (List.append_cancel_left hinside)
      exact ⟨rfl, hs⟩

/-- **All levels are determined.** -/
theorem levels_eq_of_openings_eq {c d : Candidate} {s s' : List Char} (hc : c.isPlain = true)
    (hd : d.isPlain = true) (hmethod : StartsMethod indent (levels c).length s)
    (hmethod' : StartsMethod indent (levels d).length s')
    (heq : (openings indent 0 (levels c)).toList ++ s =
      (openings indent 0 (levels d)).toList ++ s') :
    c.namespaceSegments = d.namespaceSegments ∧ c.chain = d.chain ∧ s = s' := by
  have hchain : ∀ c : Candidate, c.chain ≠ [] := by
    intro c
    simp [Candidate.chain]
  rw [Candidate.isPlain, Bool.and_eq_true] at hc hd
  have htypes := List.all_eq_true.mp hc.2
  have htypes' := List.all_eq_true.mp hd.2
  rw [levels_eq c, levels_eq d] at heq
  rw [levels_eq c] at hmethod
  rw [levels_eq d] at hmethod'
  by_cases hnone : c.namespaceSegments = [] <;> by_cases hnone' : d.namespaceSegments = []
  · rw [if_pos hnone, List.nil_append, List.length_map, ← Nat.zero_add c.chain.length] at hmethod
    rw [if_pos hnone', List.nil_append, List.length_map, ← Nat.zero_add d.chain.length] at hmethod'
    rw [if_pos hnone, if_pos hnone', List.nil_append, List.nil_append] at heq
    exact ⟨hnone.trans hnone'.symm, chain_eq_of_openings_eq htypes htypes' hmethod hmethod' heq⟩
  · rw [if_pos hnone, if_neg hnone', List.nil_append, List.singleton_append] at heq
    exact absurd heq (types_ne_space (hchain c) _ _ s s')
  · rw [if_neg hnone, if_pos hnone', List.nil_append, List.singleton_append] at heq
    exact absurd heq.symm (types_ne_space (hchain d) _ _ s' s)
  · rw [if_neg hnone, List.length_append, List.length_singleton, List.length_map] at hmethod
    rw [if_neg hnone', List.length_append, List.length_singleton, List.length_map] at hmethod'
    rw [if_neg hnone, if_neg hnone', List.singleton_append, List.singleton_append,
      toList_openings_cons, toList_openings_cons] at heq
    obtain ⟨hsegments, hinside⟩ := spaceLine_inj hnone hnone' (not_endsSegment hc.1)
      (not_endsSegment hd.1) (line_cancel heq)
    exact ⟨hsegments, chain_eq_of_openings_eq htypes htypes' hmethod hmethod'
      (List.append_cancel_left hinside)⟩

end Lines

/-! ## The first method -/

section Methods

variable {layout : Layout} {depth : Nat}

theorem write_docLine_cons (hdoc : layout.docComments = true) (text : String) (ls : List Line) :
    layout.write (docLine depth text :: ls) =
      lineAt layout.indent depth ("/// " ++ text) ++ layout.write ls := by
  have hline : (docLine depth text).layOut layout.indent =
      lineAt layout.indent depth ("/// " ++ text) :=
    Line.layOut_of_ne_empty _ (by simp [docLine])
  rw [layout.write_cons (by simp [hdoc]), hline]

/-- What is written of documentation begins with its summary. -/
theorem exists_write_documentation (hdoc : layout.docComments = true) (depth : Nat)
    (d : Documentation) : ∃ more, layout.write (d.lines depth) =
      lineAt layout.indent depth ("/// " ++ "<summary>") ++
        lineAt layout.indent depth ("/// " ++ d.summary) ++ more := by
  obtain ⟨rest, hlines⟩ : ∃ rest, d.lines depth =
      docLine depth "<summary>" :: docLine depth d.summary :: rest := ⟨_, rfl⟩
  refine ⟨layout.write rest, ?_⟩
  rw [hlines, write_docLine_cons hdoc, write_docLine_cons hdoc, String.append_assoc]

theorem toList_documentation (text : String) (s : List Char) :
    ("/// " ++ text).toList ++ s = lead [] "///" (text.toList ++ s) := by
  have hslashes : "/// ".toList = "///".toList ++ [' '] := by decide
  rw [String.toList_append, hslashes, lead]
  simp only [List.append_assoc, List.cons_append, List.nil_append]

/-- The modifiers of a method. -/
def Method.modifiers (m : Method) : Modifiers :=
  if m.kind.isStatic then [.public_, .static] else [.public_]

/-- A signature begins with modifiers, the type of the result, and the name of the method. -/
theorem exists_toList_signature (m : Method) (s : List Char) : ∃ rest,
    m.signature.toList ++ s = lead m.modifiers m.returnType (m.name.toList ++ '(' :: rest) := by
  have hstatic : "public static ".toList = "public".toList ++ ' ' :: ("static".toList ++ [' ']) := by
    decide
  have hinstance : "public ".toList = "public".toList ++ [' '] := by decide
  refine ⟨(String.intercalate ", " (m.parameters.map fun p => p.type ++ " " ++ p.name)).toList ++
    ')' :: s, ?_⟩
  rw [Method.signature, Method.modifiers]
  cases m.kind.isStatic with
  | true =>
    simp only [if_true, String.toList_append, hstatic, lead, Modifier.keyword]
    simp
  | false =>
    simp only [Bool.false_eq_true, if_false, String.toList_append, hinstance, lead, Modifier.keyword]
    simp

/-- A method is written with its documentation first and then its signature. -/
theorem exists_write_method (layout : Layout) (depth : Nat) (m : Method) : ∃ more,
    layout.write (m.lines depth) = layout.write (m.documentation.lines depth) ++
      lineAt layout.indent depth m.signature ++ more := by
  refine ⟨layout.write (braced depth (statementLines (depth + 1) false m.body)), ?_⟩
  have hsignature : m.signature ≠ "" := by
    intro hempty
    exact absurd (longer_signature m) (by simp [hempty])
  rw [Method.lines, Layout.write_append, Layout.write_code_cons layout hsignature,
    String.append_assoc]

/-- A method that returns nothing begins with documentation or with its signature. -/
theorem startsMethod_write {m : Method} (hvoid : m.returnType = "void") (s : List Char) :
    StartsMethod layout.indent depth ((layout.write (m.lines depth)).toList ++ s) := by
  obtain ⟨more, hwrite⟩ := exists_write_method layout depth m
  rw [hwrite]
  cases hdoc : layout.docComments with
  | true =>
    obtain ⟨rest, hdocumentation⟩ := exists_write_documentation hdoc depth m.documentation
    simp only [hdocumentation, String.toList_append, List.append_assoc]
    exact ⟨[], "///", by decide, starts_lineAt (toList_documentation _ _)⟩
  | false =>
    rw [Layout.write_documentation_eq_empty hdoc, String.empty_append, String.toList_append,
      List.append_assoc]
    obtain ⟨rest, hsignature⟩ := exists_toList_signature m ('\n' :: (more.toList ++ s))
    exact ⟨m.modifiers, "void", by decide, starts_lineAt (hvoid ▸ hsignature)⟩

/-! ## The engine -/

/-- The first method of a candidate. -/
def firstMethod (h : TypeHeader) (e : Engine) (r : Resolution) : Method :=
  if r.instanceWriter then instanceWriter e else staticWriter h e r

variable {h : TypeHeader} {e f : Engine} {r q : Resolution} {s t : List Char}

theorem summary_instanceWriter (e : Engine) : ∃ rest,
    (instanceWriter e).documentation.summary.toList = "Serializes ".toList ++ 't' :: rest := by
  have hsummary : "Serializes this instance into a stream.".toList =
      "Serializes ".toList ++ 't' :: "his instance into a stream.".toList := by
    decide
  exact ⟨_, hsummary⟩

theorem summary_staticWriter (h : TypeHeader) (e : Engine) (r : Resolution) : ∃ rest,
    (staticWriter h e r).documentation.summary.toList = "Serializes ".toList ++ 'a' :: rest := by
  have hsummary : "Serializes an instance of ".toList =
      "Serializes ".toList ++ 'a' :: "n instance of ".toList := by
    decide
  refine ⟨"n instance of ".toList ++ (seeReference h ++ " into a stream.").toList, ?_⟩
  simp only [staticWriter, String.toList_append, hsummary, List.append_assoc, List.cons_append]

/-- A writer on the instance is told apart from one that is static, by its summary or else by its
modifiers. -/
theorem instanceWriter_ne_staticWriter (layout : Layout) (depth : Nat) (s t : List Char) :
    (layout.write ((instanceWriter e).lines depth)).toList ++ s ≠
      (layout.write ((staticWriter h f q).lines depth)).toList ++ t := by
  intro heq
  obtain ⟨more, hwrite⟩ := exists_write_method layout depth (instanceWriter e)
  obtain ⟨more', hwrite'⟩ := exists_write_method layout depth (staticWriter h f q)
  rw [hwrite, hwrite'] at heq
  cases hdoc : layout.docComments with
  | true =>
    obtain ⟨rest, hrest⟩ := exists_write_documentation hdoc depth (instanceWriter e).documentation
    obtain ⟨rest', hrest'⟩ :=
      exists_write_documentation hdoc depth (staticWriter h f q).documentation
    obtain ⟨this, hthis⟩ := summary_instanceWriter e
    obtain ⟨an, han⟩ := summary_staticWriter h f q
    simp only [hrest, hrest', String.toList_append, List.append_assoc] at heq
    have hline := line_cancel (List.append_cancel_left heq)
    rw [String.toList_append, String.toList_append, hthis, han, List.append_assoc, List.append_assoc,
      List.append_assoc, List.append_assoc] at hline
    have hsummary := List.append_cancel_left (List.append_cancel_left hline)
    exact absurd (List.head_eq_of_cons_eq hsummary) (by decide)
  | false =>
    rw [Layout.write_documentation_eq_empty hdoc, Layout.write_documentation_eq_empty hdoc,
      String.empty_append, String.empty_append, String.toList_append, String.toList_append,
      List.append_assoc, List.append_assoc] at heq
    have hline := line_cancel heq
    obtain ⟨rest, hrest⟩ := exists_toList_signature (instanceWriter e) ('\n' :: (more.toList ++ s))
    obtain ⟨rest', hrest'⟩ :=
      exists_toList_signature (staticWriter h f q) ('\n' :: (more'.toList ++ t))
    rw [hrest, hrest'] at hline
    have hvoid : "void" ∈ leadWords := by decide
    have hmodifiers : [Modifier.public_] = [.public_, .static] := (lead_inj hvoid hvoid hline).1
    exact absurd hmodifiers (by decide)

/-- Methods with equal documentation have equal names if they are written in the same way. -/
theorem name_eq_of_write_eq {m m' : Method} (heq : (layout.write (m.lines depth)).toList ++ s =
      (layout.write (m'.lines depth)).toList ++ t)
    (hdocumentation : m.documentation = m'.documentation) (hvoid : m.returnType = "void")
    (hvoid' : m'.returnType = "void") (hname : '(' ∉ m.name.toList)
    (hname' : '(' ∉ m'.name.toList) : m.name = m'.name := by
  obtain ⟨more, hwrite⟩ := exists_write_method layout depth m
  obtain ⟨more', hwrite'⟩ := exists_write_method layout depth m'
  simp only [hwrite, hwrite', hdocumentation, String.toList_append, List.append_assoc] at heq
  have hline := line_cancel (List.append_cancel_left heq)
  obtain ⟨rest, hrest⟩ := exists_toList_signature m ('\n' :: (more.toList ++ s))
  obtain ⟨rest', hrest'⟩ := exists_toList_signature m' ('\n' :: (more'.toList ++ t))
  rw [hrest, hrest', hvoid, hvoid'] at hline
  have hnames := (lead_inj (by decide) (by decide) hline).2.2
  exact String.toList_inj.mp (Text.split_at_first hname hname' hnames).1

/-- **The first method tells the engine.** -/
theorem engine_eq_of_firstMethod_eq
    (heq : (layout.write ((firstMethod h e r).lines depth)).toList ++ s =
      (layout.write ((firstMethod h f q).lines depth)).toList ++ t) : e = f := by
  have hname : ∀ e : Engine, '(' ∉ e.writeMethod.toList := by
    intro e
    cases e <;> decide
  have hengine : e.writeMethod = f.writeMethod → e = f := by
    cases e <;> cases f <;> decide
  rw [firstMethod, firstMethod] at heq
  cases hr : r.instanceWriter <;> cases hq : q.instanceWriter <;>
    simp only [hr, hq, if_true, Bool.false_eq_true, if_false] at heq
  · exact hengine (name_eq_of_write_eq heq rfl rfl rfl (hname e) (hname f))
  · exact absurd heq.symm (instanceWriter_ne_staticWriter layout depth t s)
  · exact absurd heq (instanceWriter_ne_staticWriter layout depth s t)
  · exact hengine (name_eq_of_write_eq heq rfl rfl rfl (hname e) (hname f))

end Methods

/-! ## Whole units -/

/-- The text of a unit up to the end of its first method. -/
theorem exists_render_eq {c : Candidate} {e : Engine} {r : Resolution} {tree : Node}
    (htree : synthesize c e r = .ok tree) (layout : Layout) : ∃ more, tree.render layout =
      (if layout.header then "// <auto-generated/>\n#nullable enable\n\n" else "") ++
        (openings layout.indent 0 (levels c) ++
          (layout.write ((firstMethod c.header e r).lines (levels c).length) ++ more)) := by
  obtain ⟨methods, hmethods⟩ : ∃ methods, (methodsFor c.header e r).map Node.method =
      .method (firstMethod c.header e r) :: methods := by
    rw [methodsFor, firstMethod]
    cases r.instanceWriter <;> exact ⟨_, rfl⟩
  have hbody : ∀ depth, ∃ rest, bodyLines depth ((methodsFor c.header e r).map .method) =
      (firstMethod c.header e r).lines depth ++ rest := by
    intro depth
    rw [hmethods]
    cases methods with
    | nil => exact ⟨[], (List.append_nil _).symm⟩
    | cons next methods => exact ⟨_, rfl⟩
  have hlevels : ∀ level ∈ levels c, level ≠ "" := fun _ => ne_empty_of_mem_levels
  have hwrite := layout.write_nested hlevels 0 fun depth =>
    bodyLines depth ((methodsFor c.header e r).map .method)
  rw [synthesize] at htree
  cases hclosed : closedScope? c with
  | some h =>
    rw [hclosed] at htree
    cases htree
  | none =>
    rw [hclosed] at htree
    cases htree
    obtain ⟨rest, hrest⟩ := hbody (levels c).length
    refine ⟨layout.write rest ++ closings layout.indent 0 (levels c).length, ?_⟩
    rw [render_eq, lines_wrapped, hwrite, Nat.zero_add, hrest, Layout.write_append]
    simp only [String.append_assoc]

/-- **The source of a unit tells what it opens again**: if two units have the same text in one layout,
they are for the same engine, the same segments of a namespace and the same types, from the outermost
in, with all of their modifiers and type parameters. -/
theorem reopened_eq_of_render_eq {c d : Candidate} {e f : Engine} {r q : Resolution}
    {tree tree' : Node} {layout : Layout} (hc : c.isPlain = true) (hd : d.isPlain = true)
    (htree : synthesize c e r = .ok tree) (htree' : synthesize d f q = .ok tree')
    (heq : tree.render layout = tree'.render layout) :
    e = f ∧ c.namespaceSegments = d.namespaceSegments ∧ c.chain = d.chain := by
  have hvoid : ∀ (h : TypeHeader) (e : Engine) (r : Resolution),
      (firstMethod h e r).returnType = "void" := by
    intro h e r
    rw [firstMethod]
    cases r.instanceWriter <;> rfl
  obtain ⟨more, hrender⟩ := exists_render_eq htree layout
  obtain ⟨more', hrender'⟩ := exists_render_eq htree' layout
  have htext := congrArg String.toList heq
  simp only [hrender, hrender', String.toList_append] at htext
  obtain ⟨hsegments, hchain, hmethods⟩ := levels_eq_of_openings_eq hc hd
    (startsMethod_write (hvoid _ e r) _) (startsMethod_write (hvoid _ f q) _)
    (List.append_cancel_left htext)
  have hheader : c.header = d.header := by
    have hlast := congrArg List.getLast? hchain
    simpa [Candidate.chain] using hlast
  have hlevels : levels c = levels d := by
    rw [levels_eq, levels_eq, hsegments, hchain]
  rw [hheader, hlevels] at hmethods
  exact ⟨engine_eq_of_firstMethod_eq hmethods, hsegments, hchain⟩

/-- The record of `boxed` with its namespace spelled in another way, and with an attribute. -/
def respelled : Candidate :=
  { boxed with attributes := [⟨Engine.serializableMarker, [], ""⟩], within := some ⟨"Demo.App."⟩ }

/-- These are two candidates with one source, and they are told to open the same again. -/
theorem reopened_eq_of_render_eq_respelled : boxed ≠ respelled ∧
    boxed.isPlain = true ∧ respelled.isPlain = true ∧
    ∃ tree tree', synthesize boxed .json forwarding = .ok tree ∧
      synthesize respelled .json forwarding = .ok tree' ∧
      tree.render .standard = tree'.render .standard ∧
      Engine.json = .json ∧ boxed.namespaceSegments = respelled.namespaceSegments ∧
        boxed.chain = respelled.chain := by
  have hplain : boxed.isPlain = true := by decide
  have hplain' : respelled.isPlain = true := by decide
  have hspace : wrapInNamespace boxed.within = wrapInNamespace respelled.within := by
    have hcanonical :
        (Namespace.mk "Demo. App").canonical = (Namespace.mk "Demo.App.").canonical := by
      decide
    funext inner
    simp only [boxed, respelled, wrapInNamespace, hcanonical]
  obtain ⟨tree, htree⟩ : ∃ tree, synthesize boxed .json forwarding = .ok tree := ⟨_, rfl⟩
  have htree' : synthesize respelled .json forwarding = .ok tree := by
    rw [← htree, synthesize, synthesize, hspace]
    rfl
  have hsame : tree.render .standard = tree.render .standard := rfl
  exact ⟨by decide, hplain, hplain', tree, tree, htree, htree', hsame,
    reopened_eq_of_render_eq hplain hplain' htree htree' hsame⟩

end DataContract.Source
