import DataContract.Proofs.Text.Trim
import DataContract.Settings

/-!
# Which member supplies the settings

A member supplies settings under a name in one of three shapes (`Supplies`): as a static property, as a
static field that introduces the name as its first variable, or as a static method without parameters
that returns nothing.  Any other member is passed over, however much it looks like one: `Unfit` lists
the ways in which a member misses.

* `providerShape?_eq_some_iff`, `providerShape?_eq_none_iff` --- a single member.
* `settingsProvider?_eq_some_iff` --- of several members that fit the first one counts, whatever its
  shape.
* `settingsProvider?_append` --- so a list is searched part by part.
* `Padded.settingsProvider?_eq` --- and members that do not fit may stand anywhere in it.

`settingsProvider?_in_order` puts this together.
-/

namespace DataContract

open Declaration

/-! ## A single member -/

/-- A method returns nothing: its return type is `void`, with any white space around it. -/
def Declaration.MethodDeclaration.ReturnsVoid (d : MethodDeclaration) : Prop :=
  ∃ w w', Text.AllBlank w ∧ Text.AllBlank w' ∧ d.returnType.toList = w ++ ("void".toList ++ w')

/-- A member supplies settings under a name in a given shape. -/
inductive Supplies (name : String) : Member → ProviderShape → Prop
  | property {d : PropertyDeclaration} (hstatic : .static ∈ d.modifiers) (hname : d.name = name) :
    Supplies name (.property d) .property
  | field {d : FieldDeclaration} {later : List String} (hstatic : .static ∈ d.modifiers)
    (hnames : d.names = name :: later) : Supplies name (.field d) .field
  | method {d : MethodDeclaration} (hstatic : .static ∈ d.modifiers) (hname : d.name = name)
    (hvoid : d.ReturnsVoid) (hparameters : d.parameters = []) : Supplies name (.method d) .method

/-- A member supplies no settings under a name, for one of these reasons. -/
inductive Unfit (name : String) : Member → Prop
  | ofInstance {m : Member} (h : .static ∉ m.modifiers) : Unfit name m
  | otherProperty {d : PropertyDeclaration} (h : d.name ≠ name) : Unfit name (.property d)
  /-- The name is at most that of a later variable. -/
  | laterVariable {d : FieldDeclaration} (h : d.names.head? ≠ some name) : Unfit name (.field d)
  | otherMethod {d : MethodDeclaration} (h : d.name ≠ name) : Unfit name (.method d)
  | returning {d : MethodDeclaration} (h : ¬d.ReturnsVoid) : Unfit name (.method d)
  | parameterized {d : MethodDeclaration} (h : d.parameters ≠ []) : Unfit name (.method d)
  | neither (d : OtherDeclaration) : Unfit name (.other d)

variable {name : String} {m : Member} {shape : ProviderShape}

theorem trim_returnType_eq_iff {d : MethodDeclaration} :
    Text.trim d.returnType = "void" ↔ d.ReturnsVoid := by
  have hvoid : Text.Trimmed "void".toList := by decide
  rw [Text.trim, MethodDeclaration.ReturnsVoid, ← String.toList_inj, String.toList_ofList,
    Text.trimChars_eq_iff, and_iff_right hvoid]

theorem isStatic_iff : m.isStatic = true ↔ .static ∈ m.modifiers := by
  rw [Member.isStatic, Modifiers.isStatic, List.contains_iff_mem]

/-- **The members that supply settings** are found in their shape. -/
theorem providerShape?_eq_some_iff : providerShape? name m = some shape ↔ Supplies name m shape := by
  by_cases hstatic : m.isStatic = true
  · have hmodifiers := isStatic_iff.mp hstatic
    rw [providerShape?.eq_def, hstatic]
    cases m with
    | property d =>
      constructor
      · intro h
        obtain ⟨hname, ⟨⟩⟩ : d.name = name ∧ ProviderShape.property = shape := by simpa using h
        exact .property hmodifiers hname
      · rintro ⟨-, hname⟩
        simp [hname]
    | field d =>
      constructor
      · intro h
        obtain ⟨hnames, ⟨⟩⟩ : d.names.head? = some name ∧ ProviderShape.field = shape := by
          simpa using h
        obtain ⟨later, hlater⟩ := List.head?_eq_some_iff.mp hnames
        exact .field hmodifiers hlater
      · rintro (_ | ⟨-, hnames⟩)
        simp [hnames]
    | method d =>
      constructor
      · intro h
        obtain ⟨⟨⟨hname, hvoid⟩, hparameters⟩, ⟨⟩⟩ : ((d.name = name ∧
            Text.trim d.returnType = "void") ∧ d.parameters = []) ∧
              ProviderShape.method = shape := by
          simpa using h
        exact .method hmodifiers hname (trim_returnType_eq_iff.mp hvoid) hparameters
      · rintro (_ | _ | ⟨-, hname, hvoid, hparameters⟩)
        simp [hname, trim_returnType_eq_iff.mpr hvoid, hparameters]
    | other d =>
      constructor
      · intro h
        simp at h
      · rintro ⟨⟩
  · have hmodifiers := fun h => hstatic (isStatic_iff.mpr h)
    rw [providerShape?.eq_def, if_pos (by simpa using hstatic)]
    constructor
    · rintro ⟨⟩
    · rintro (⟨h, -⟩ | ⟨h, -⟩ | ⟨h, -⟩) <;> exact absurd h hmodifiers

/-- A member that does not fit is one that supplies nothing. -/
theorem unfit_iff : Unfit name m ↔ ∀ shape, ¬Supplies name m shape := by
  constructor
  · rintro (h | h | h | h | h | h | _) shape hsupplies
    · rcases hsupplies with ⟨hstatic, -⟩ | ⟨hstatic, -⟩ | ⟨hstatic, -⟩ <;> exact h hstatic
    · obtain ⟨-, hname⟩ := hsupplies
      exact h hname
    · obtain _ | ⟨-, hnames⟩ := hsupplies
      exact h (by rw [hnames, List.head?_cons])
    · obtain _ | _ | ⟨-, hname, -, -⟩ := hsupplies
      exact h hname
    · obtain _ | _ | ⟨-, -, hvoid, -⟩ := hsupplies
      exact h hvoid
    · obtain _ | _ | ⟨-, -, -, hparameters⟩ := hsupplies
      exact h hparameters
    · cases hsupplies
  · intro h
    by_cases hstatic : .static ∈ m.modifiers
    · cases m with
      | property d => exact .otherProperty fun hname => h _ (.property hstatic hname)
      | field d =>
        refine .laterVariable fun hnames => ?_
        obtain ⟨later, hlater⟩ := List.head?_eq_some_iff.mp hnames
        exact h _ (.field hstatic hlater)
      | method d =>
        by_cases hname : d.name = name
        · by_cases hvoid : d.ReturnsVoid
          · exact .parameterized fun hparameters =>
              h _ (.method hstatic hname hvoid hparameters)
          · exact .returning hvoid
        · exact .otherMethod hname
      | other d => exact .neither d
    · exact .ofInstance hstatic

theorem providerShape?_eq_none_iff : providerShape? name m = none ↔ Unfit name m := by
  simp only [unfit_iff, ← providerShape?_eq_some_iff, Option.eq_none_iff_forall_ne_some, ne_eq]

/-! ## Lists of members -/

variable {members xs ys : List Member}

/-- **The first member that fits** supplies the settings, in its shape. -/
theorem settingsProvider?_eq_some_iff {p : SettingsProvider} :
    settingsProvider? members name = some p ↔
      p.member = name ∧ ∃ before m behind, members = before ++ m :: behind ∧
        Supplies name m p.shape ∧ ∀ m' ∈ before, Unfit name m' := by
  simp only [← providerShape?_eq_some_iff, ← providerShape?_eq_none_iff,
    ← List.findSome?_eq_some_iff]
  rw [settingsProvider?, Option.map_eq_some_iff]
  constructor
  · rintro ⟨shape, hshape, rfl⟩
    exact ⟨rfl, hshape⟩
  · rintro ⟨rfl, hshape⟩
    exact ⟨p.shape, hshape, rfl⟩

theorem isSome_settingsProvider?_iff :
    (settingsProvider? members name).isSome ↔ ∃ m ∈ members, ∃ shape, Supplies name m shape := by
  simp only [← providerShape?_eq_some_iff, ← Option.isSome_iff_exists]
  rw [settingsProvider?, Option.isSome_map, List.findSome?_isSome_iff]

/-- A list is searched part by part. -/
theorem settingsProvider?_append (xs ys : List Member) (name : String) :
    settingsProvider? (xs ++ ys) name =
      (settingsProvider? xs name).or (settingsProvider? ys name) := by
  rw [settingsProvider?, List.findSome?_append, Option.map_or]
  rfl

theorem settingsProvider?_cons_of_unfit (h : Unfit name m) (xs : List Member) :
    settingsProvider? (m :: xs) name = settingsProvider? xs name := by
  rw [settingsProvider?, List.findSome?_cons, providerShape?_eq_none_iff.mpr h]
  rfl

/-- A list is another one into which members that do not fit have been inserted. -/
inductive Padded (name : String) : List Member → List Member → Prop
  | nil : Padded name [] []
  | keep (m : Member) {xs ys : List Member} (h : Padded name xs ys) :
    Padded name (m :: xs) (m :: ys)
  | insert {m : Member} (hm : Unfit name m) {xs ys : List Member} (h : Padded name xs ys) :
    Padded name xs (m :: ys)

/-- **Members that do not fit may stand anywhere.** -/
theorem Padded.settingsProvider?_eq (h : Padded name xs ys) :
    settingsProvider? ys name = settingsProvider? xs name := by
  induction h with
  | nil => rfl
  | keep m _ ih =>
    rw [← List.singleton_append, settingsProvider?_append, ih, ← settingsProvider?_append,
      List.singleton_append]
  | insert hm _ ih => rw [settingsProvider?_cons_of_unfit hm, ih]

/-- **Members supply settings in the order of their declaration.**  The settings are supplied by the
first member that fits, if there is one, in the shape that it has; a list is therefore searched part
by part, and members that do not fit, which are those with one of the reasons for it, change nothing
wherever they stand. -/
theorem settingsProvider?_in_order (name : String) :
    (∀ members p, settingsProvider? members name = some p ↔
      p.member = name ∧ ∃ before m behind, members = before ++ m :: behind ∧
        Supplies name m p.shape ∧ ∀ m' ∈ before, Unfit name m') ∧
    (∀ members, (settingsProvider? members name).isSome ↔
      ∃ m ∈ members, ∃ shape, Supplies name m shape) ∧
    (∀ xs ys, settingsProvider? (xs ++ ys) name =
      (settingsProvider? xs name).or (settingsProvider? ys name)) ∧
    (∀ m, Unfit name m ↔ ∀ shape, ¬Supplies name m shape) ∧
    ∀ xs ys, Padded name xs ys → settingsProvider? ys name = settingsProvider? xs name :=
  ⟨fun _ _ => settingsProvider?_eq_some_iff, fun _ => isSome_settingsProvider?_iff,
    fun xs ys => settingsProvider?_append xs ys name, fun _ => unfit_iff,
    fun _ _ h => h.settingsProvider?_eq⟩

/-- A method and a property that both fit. -/
def rivals : List Member :=
  [.method ⟨[.static], " void\t", "Options", []⟩, .property ⟨[.static], "Settings", "Options"⟩]

/-- The same members among some that miss: a property of the instances, a field that introduces the
name behind another one, and methods with a parameter or a return type. -/
def besieged : List Member :=
  [.property ⟨[.public_], "Settings", "Options"⟩,
    .field ⟨[.static], "Settings", ["Primary", "Options"]⟩,
    .method ⟨[.static], "void", "Options", [⟨"int", "x"⟩]⟩,
    .method ⟨[.static], " void\t", "Options", []⟩,
    .method ⟨[.static], "Settings", "Options", []⟩,
    .property ⟨[.static], "Settings", "Options"⟩,
    .other ⟨[.static], some "Options"⟩]

/-- Of both lists the method supplies the settings. -/
theorem settingsProvider?_in_order_besieged : Padded "Options" rivals besieged ∧
    settingsProvider? besieged "Options" = some ⟨"Options", .method⟩ ∧
    settingsProvider? besieged "Options" = settingsProvider? rivals "Options" := by
  have hvoid : ¬(⟨[.static], "Settings", "Options", []⟩ : MethodDeclaration).ReturnsVoid := by
    rw [← trim_returnType_eq_iff]
    decide +kernel
  have hpadded : Padded "Options" rivals besieged :=
    .insert (.ofInstance (by decide)) (.insert (.laterVariable (by decide))
      (.insert (.parameterized (by decide)) (.keep _ (.insert (.returning hvoid)
        (.keep _ (.insert (.neither _) .nil))))))
  have hsame := (settingsProvider?_in_order "Options").2.2.2.2 rivals besieged hpadded
  exact ⟨hpadded, hsame.trans (by decide +kernel), hsame⟩

end DataContract
