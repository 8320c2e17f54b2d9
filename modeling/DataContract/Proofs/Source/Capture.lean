import DataContract.Proofs.Source.Lines
import DataContract.Proofs.Text.Split
import DataContract.Source.Synthesis

/-!
# Which settings expressions are captured

The expression that reads the settings stands in the bodies of two methods, where it is meant to
denote a member of the type.  It does not if the method has a parameter of that name, or if the
body declares a local variable of that name.

What a body declares is read off its lines: a line declares a variable if it introduces one with
`var`, or if it returns the variable of a pattern (`Line.Declares`).  No statement is looked at, so
this is about the text that is written, which is that of the lines (`Writer.statements_eq`).

* `binds_staticWriter` and `binds_staticReader` --- the names that the two methods bind.
* `not_captured_iff` --- the expression denotes the member in every method exactly if the member has
  none of six names.

A marker may well name a property `target` (`captured_target`).
-/

namespace DataContract.Source

open Declaration

/-! ## Lines -/

/-- A line declares a variable: `var x = …` or `return … is T x ? x : default;`. -/
def Line.Declares (l : Line) (x : String) : Prop :=
  ' ' ∉ x.toList ∧
    ((∃ value, l.text = "var " ++ x ++ " = " ++ value) ∨
      ∃ value type, l.text =
        "return " ++ value ++ " is " ++ type ++ " " ++ x ++ " ? " ++ x ++ " : default;")

variable {l : Line} {x y : String}

/-- A line that declares a variable begins with `v` or `r`. -/
theorem Line.Declares.head (h : l.Declares x) :
    l.text.toList.head? = some 'v' ∨ l.text.toList.head? = some 'r' := by
  obtain ⟨-, ⟨value, htext⟩ | ⟨value, type, htext⟩⟩ := h
  · left
    rw [htext]
    simp
  · right
    rw [htext]
    simp

/-- What a line with `var` declares. -/
theorem declares_var (value : String) (hy : ' ' ∉ y.toList)
    (hl : l.text = "var " ++ y ++ " = " ++ value) : l.Declares x ↔ x = y := by
  constructor
  · rintro ⟨hx, ⟨other, htext⟩ | ⟨other, type, htext⟩⟩
    · rw [hl] at htext
      have hchars := congrArg String.toList htext
      simp only [String.toList_append, List.append_assoc] at hchars
      have hcut := List.append_cancel_left hchars
      exact (String.toList_inj.mp (Text.split_at_first hy hx hcut).1).symm
    · rw [hl] at htext
      have hchars := congrArg (fun s => s.toList.head?) htext
      simp at hchars
  · rintro rfl
    exact ⟨hy, Or.inl ⟨value, hl⟩⟩

/-- What a line with a pattern declares. -/
theorem declares_pattern (value type : String) (hy : ' ' ∉ y.toList)
    (hl : l.text =
      "return " ++ value ++ " is " ++ type ++ " " ++ y ++ " ? " ++ y ++ " : default;") :
    l.Declares x ↔ x = y := by
  constructor
  · rintro ⟨hx, ⟨other, htext⟩ | ⟨other, type', htext⟩⟩
    · rw [hl] at htext
      have hchars := congrArg (fun s => s.toList.head?) htext
      simp at hchars
    · rw [hl] at htext
      have hchars := congrArg String.toList htext
      simp only [String.toList_append] at hchars
      have hcut := List.append_cancel_right hchars
      have hmark : ∀ u s : List Char, u ++ " ? ".toList ++ s = (u ++ " ?".toList) ++ ' ' :: s := by
        intro u s
        simp
      rw [hmark, hmark] at hcut
      exact (String.toList_inj.mp (Text.split_at_last hy hx hcut).2).symm
  · rintro rfl
    exact ⟨hy, Or.inr ⟨value, type, hl⟩⟩

/-! ## Statements -/

/-- One of some lines declares a variable. -/
def Declared (ls : List Line) (x : String) : Prop := ∃ l ∈ ls, l.Declares x

variable {ls ls' : List Line} {depth : Nat} {guarded : Bool}

@[simp] theorem declared_nil : ¬Declared [] x := fun ⟨_, h, _⟩ => nomatch h

@[simp] theorem declared_cons : Declared (l :: ls) x ↔ l.Declares x ∨ Declared ls x := by
  simp only [Declared, List.mem_cons, or_and_right, exists_or, exists_eq_left]

@[simp] theorem declared_append : Declared (ls ++ ls') x ↔ Declared ls x ∨ Declared ls' x := by
  simp only [Declared, List.mem_append, or_and_right, exists_or]

/-- Lines that do not begin with `v` or `r` declare nothing. -/
theorem not_declared_of_head
    (h : ∀ l ∈ ls, l.text.toList.head? ≠ some 'v' ∧ l.text.toList.head? ≠ some 'r') :
    ¬Declared ls x := by
  rintro ⟨l, hl, hdeclares⟩
  rcases hdeclares.head with hv | hr
  · exact (h l hl).1 hv
  · exact (h l hl).2 hr

/-- A guard declares nothing. -/
theorem not_declared_throwIfNull (parameter : String) :
    ¬Declared ((Statement.throwIfNull parameter).lines depth) x := by
  refine not_declared_of_head fun l hl => ?_
  simp only [Statement.lines, braced, List.mem_cons, List.mem_append, List.not_mem_nil, or_false]
    at hl
  rcases hl with rfl | (rfl | rfl) | rfl <;> simp [code]

/-- Writing an instance declares nothing. -/
theorem not_declared_writeObject (stream subject : String) :
    ¬Declared ((Statement.writeObject stream subject).lines depth) x := by
  refine not_declared_of_head fun l hl => ?_
  rw [List.mem_singleton.mp hl]
  simp [code]

/-- Making a serializer with settings declares two variables. -/
theorem declared_constructSerializer (serializer target settings : String) :
    Declared ((Statement.constructSerializer serializer target (some settings)).lines depth) x ↔
      x = "settings" ∨ x = "serializer" := by
  have hsettings : (code depth ("var settings = " ++ settings ++ ";")).Declares x ↔
      x = "settings" := by
    refine declares_var (settings ++ ";") (by decide) ?_
    exact String.append_assoc
  have hserializer : (code depth ("var serializer = settings is not null ? new " ++ serializer ++
      "(typeof(" ++ target ++ "), settings) : " ++ construction serializer target ++ ";")).Declares
        x ↔ x = "serializer" := by
    have hopen : "var serializer = settings is not null ? new " =
        "var " ++ "serializer" ++ " = " ++ "settings is not null ? new " := by
      decide
    refine declares_var ("settings is not null ? new " ++ serializer ++ "(typeof(" ++ target ++
      "), settings) : " ++ construction serializer target ++ ";") (by decide) ?_
    simp only [code, hopen, String.append_assoc]
  rw [Statement.lines, declared_cons, declared_cons, hsettings, hserializer]
  simp only [declared_nil, or_false]

/-- Reading an instance declares one variable. -/
theorem declared_readObject (stream target : String) :
    Declared ((Statement.readObject stream target).lines depth) x ↔ x = "deserialized" := by
  have hline : (code depth ("return serializer.ReadObject(" ++ stream ++ ") is " ++ target ++
      " deserialized ? deserialized : default;")).Declares x ↔ x = "deserialized" := by
    have hopen : "return serializer.ReadObject(" = "return " ++ "serializer.ReadObject(" := by decide
    have hvalue : ") is " = ")" ++ " is " := by decide
    have hresult : " deserialized ? deserialized : default;" =
        " " ++ "deserialized" ++ " ? " ++ "deserialized" ++ " : default;" := by
      decide
    refine declares_pattern ("serializer.ReadObject(" ++ stream ++ ")") target (by decide) ?_
    simp only [code, hopen, hvalue, hresult, String.append_assoc]
  rw [Statement.lines, declared_cons, hline]
  simp only [declared_nil, or_false]

/-- What statements declare, their lines declare. -/
theorem declared_statementLines {ss : List Statement} :
    Declared (statementLines depth guarded ss) x ↔ ∃ s ∈ ss, Declared (s.lines depth) x := by
  induction ss generalizing guarded with
  | nil => simp [statementLines]
  | cons s ss ih =>
    have hblank : ¬Declared (if guarded && !s.isGuard then [blankLine depth] else []) x := by
      refine not_declared_of_head fun l hl => ?_
      split at hl
      · rw [List.mem_singleton.mp hl]
        simp [blankLine, code]
      · cases hl
    rw [statementLines, declared_append, declared_append, ih]
    simp only [hblank, false_or, List.mem_cons, or_and_right, exists_or, exists_eq_left]

/-! ## Methods -/

/-- A name means a parameter or a local variable in a method. -/
def Method.Binds (m : Method) (x : String) : Prop :=
  x ∈ m.parameters.map Parameter.name ∨ ∃ depth, Declared (statementLines depth false m.body) x

/-- In every construction of a serializer, the settings are read from the member that supplies
them. -/
def Method.Reads (m : Method) (p : SettingsProvider) : Prop :=
  ∀ serializer target settings, .constructSerializer serializer target settings ∈ m.body →
    settings = some p.expression ∧ ¬m.Binds p.member

section Methods

variable {m : Method} {h : TypeHeader} {e : Engine} {r : Resolution} {p : SettingsProvider}

/-- What the writer binds: its parameters, the settings and the serializer. -/
theorem binds_staticWriter (hp : r.provider = some p) :
    (staticWriter h e r).Binds x ↔ x ∈ ["target", "instance", "settings", "serializer"] := by
  have hparameters : x ∈ (staticWriter h e r).parameters.map Parameter.name ↔
      x = "target" ∨ x = "instance" := by
    simp [staticWriter]
  have hbody : ∀ depth, Declared (statementLines depth false (staticWriter h e r).body) x ↔
      x = "settings" ∨ x = "serializer" := by
    intro depth
    rw [declared_statementLines]
    cases hkind : h.kind.isValueType <;>
      simp [staticWriter, constructionOf, hkind, hp, not_declared_throwIfNull,
        declared_constructSerializer, not_declared_writeObject]
  rw [Method.Binds, hparameters]
  simp only [hbody, exists_const, List.mem_cons, List.not_mem_nil, or_false, or_assoc]

/-- What the reader binds: its parameter, the settings, the serializer and the result. -/
theorem binds_staticReader (hp : r.provider = some p) :
    (staticReader h e r).Binds x ↔ x ∈ ["source", "settings", "serializer", "deserialized"] := by
  have hparameters : x ∈ (staticReader h e r).parameters.map Parameter.name ↔ x = "source" := by
    simp [staticReader]
  have hbody : ∀ depth, Declared (statementLines depth false (staticReader h e r).body) x ↔
      (x = "settings" ∨ x = "serializer") ∨ x = "deserialized" := by
    intro depth
    rw [declared_statementLines]
    simp [staticReader, constructionOf, hp, not_declared_throwIfNull,
      declared_constructSerializer, declared_readObject]
  rw [Method.Binds, hparameters]
  simp only [hbody, exists_const, List.mem_cons, List.not_mem_nil, or_false, or_assoc]

/-- A method whose only construction is the common one reads the settings from the member exactly
if it does not bind the member's name. -/
theorem reads_iff (hp : r.provider = some p) (hmem : constructionOf h e r ∈ m.body)
    (honly : ∀ s ∈ m.body, s.isConstruction → s = constructionOf h e r) :
    m.Reads p ↔ ¬m.Binds p.member := by
  constructor
  · intro hreads
    exact (hreads _ _ _ hmem).2
  · intro hfree serializer target settings hs
    have hsame := honly _ hs rfl
    rw [constructionOf, hp, Statement.constructSerializer.injEq] at hsame
    exact ⟨hsame.2.2, hfree⟩

/-- When the writer reads the settings from the member. -/
theorem reads_staticWriter (hp : r.provider = some p) :
    (staticWriter h e r).Reads p ↔
      p.member ∉ ["target", "instance", "settings", "serializer"] := by
  rw [reads_iff (h := h) (e := e) hp, binds_staticWriter hp]
  · simp [staticWriter]
  · intro s hs hconstructs
    simp only [staticWriter, List.cons_append, List.mem_cons, List.mem_append, List.not_mem_nil,
      or_false] at hs
    rcases hs with rfl | hs | rfl | rfl
    · cases hconstructs
    · split at hs
      · cases hs
      · rw [List.mem_singleton.mp hs] at hconstructs
        cases hconstructs
    · rfl
    · cases hconstructs

/-- When the reader reads the settings from the member. -/
theorem reads_staticReader (hp : r.provider = some p) :
    (staticReader h e r).Reads p ↔
      p.member ∉ ["source", "settings", "serializer", "deserialized"] := by
  rw [reads_iff (h := h) (e := e) hp, binds_staticReader hp]
  · simp [staticReader]
  · intro s hs hconstructs
    simp only [staticReader, List.mem_cons, List.not_mem_nil, or_false] at hs
    rcases hs with rfl | rfl | rfl
    · cases hconstructs
    · rfl
    · cases hconstructs

/-- The writer on the instance makes no serializer. -/
theorem reads_instanceWriter (e : Engine) (p : SettingsProvider) : (instanceWriter e).Reads p := by
  intro serializer target settings hs
  simp only [instanceWriter, List.mem_cons, List.not_mem_nil, or_false, reduceCtorEq] at hs

end Methods

/-! ## Trees -/

theorem bodyMethods_map_method (ms : List Method) :
    Node.bodyMethods (ms.map .method) = ms := by
  induction ms with
  | nil => rfl
  | cons m ms ih =>
    rw [List.map_cons, Node.bodyMethods, ih]
    rfl

@[simp] theorem methods_wrapInTypes (headers : List TypeHeader) (inner : Node) :
    (wrapInTypes headers inner).methods = inner.methods := by
  induction headers with
  | nil => rfl
  | cons h headers ih =>
    rw [wrapInTypes, List.foldr_cons, ← wrapInTypes, Node.methods, Node.bodyMethods, ih,
      Node.bodyMethods, List.append_nil]

@[simp] theorem methods_wrapInNamespace (n : Option Namespace) (inner : Node) :
    (wrapInNamespace n inner).methods = inner.methods := by
  cases n with
  | none => rfl
  | some n =>
    show (if n.canonical.isEmpty then inner else .space n.canonical [inner]).methods = _
    split
    · rfl
    · rw [Node.methods, Node.bodyMethods, Node.bodyMethods, List.append_nil]

/-- The methods in the tree of a unit. -/
theorem methods_of_synthesize {c : Candidate} {e : Engine} {r : Resolution} {tree : Node}
    (ht : synthesize c e r = .ok tree) : tree.methods = methodsFor c.header e r := by
  rw [synthesize] at ht
  split at ht
  · cases ht
  · rw [← Except.ok.inj ht, methods_wrapInNamespace, methods_wrapInTypes, Node.methods,
      bodyMethods_map_method]

/-- The names that one of the methods binds. -/
def boundNames : List String :=
  ["target", "instance", "source", "settings", "serializer", "deserialized"]

/-- **The settings are read from the member that supplies them** in every method of a unit exactly
if no method binds its name. -/
theorem not_captured_iff {c : Candidate} {e : Engine} {r : Resolution} {p : SettingsProvider}
    {tree : Node} (hp : r.provider = some p) (ht : synthesize c e r = .ok tree) :
    (∀ m ∈ tree.methods, m.Reads p) ↔ p.member ∉ boundNames := by
  have hmethods : (∀ m ∈ tree.methods, m.Reads p) ↔
      (staticWriter c.header e r).Reads p ∧ (staticReader c.header e r).Reads p := by
    rw [methods_of_synthesize ht, methodsFor]
    cases r.instanceWriter <;> simp [reads_instanceWriter]
  rw [hmethods, reads_staticWriter hp, reads_staticReader hp, boundNames]
  simp only [List.mem_cons, List.not_mem_nil, or_false]
  grind

/-- A type whose marker for JSON names one of its static properties. -/
def pairWith (member : String) : Candidate where
  header := ⟨"Pair", .class_, [.partial_], []⟩
  attributes :=
    [⟨Engine.json.markerPath, [⟨Engine.settingsOption, .string member⟩], ""⟩,
      ⟨Engine.serializableMarker, [], ""⟩]
  members := [.property ⟨[.static], "Settings", member⟩]
  enclosing := []
  within := none

/-- What that marker asks for. -/
def resolutionWith (member : String) : Resolution :=
  ⟨some ⟨member, .property⟩, false, some member⟩

/-- The settings are read from a property with another name. -/
theorem not_captured_iff_options : ∃ tree,
    resolve (pairWith "Options") .json = .ok (resolutionWith "Options") ∧
      (resolutionWith "Options").provider = some ⟨"Options", .property⟩ ∧
      synthesize (pairWith "Options") .json (resolutionWith "Options") = .ok tree ∧
      ∀ m ∈ tree.methods, m.Reads ⟨"Options", .property⟩ := by
  refine ⟨_, rfl, rfl, rfl, ?_⟩
  exact (not_captured_iff (c := pairWith "Options") (e := .json) (r := resolutionWith "Options")
    rfl rfl).mpr (by decide)

/-- The settings are not read from a property `target`, for which the writer takes its stream. -/
theorem captured_target : ∃ tree,
    resolve (pairWith "target") .json = .ok (resolutionWith "target") ∧
      synthesize (pairWith "target") .json (resolutionWith "target") = .ok tree ∧
      ¬∀ m ∈ tree.methods, m.Reads ⟨"target", .property⟩ := by
  refine ⟨_, rfl, rfl, fun hreads => ?_⟩
  have hwriter := hreads (staticWriter (pairWith "target").header .json (resolutionWith "target"))
    (List.mem_cons_self ..)
  exact absurd ((reads_staticWriter rfl).mp hwriter) (by decide)

end DataContract.Source
