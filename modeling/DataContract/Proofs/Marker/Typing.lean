import DataContract.Proofs.Marker.Faults

/-!
# Which arguments bind

An argument is *well typed* if it is written with a name and a value, the name is that of an option,
and the value is of the option's type: a string or the name of a member for the one, a truth value
for the other.  Not only such arguments bind.  The option for a writer on the instance also takes no
value at all, and a string that spells a truth value (`Item.Lax`).

* `Item.gives_iff` --- an item gives a value exactly if it is well typed or lax.
* `binds_iff_typed_or_lax` --- so a marker binds exactly if all its arguments are one or the other,
  and none sets an option a second time.

A marker may well be bound by a string where a truth value is due (`not_only_typed_of_string`).
-/

namespace DataContract.Marker

open Declaration

/-! ## Items -/

namespace Item

/-- An item is written with the name of an option and a value of its type. -/
inductive WellTyped : Item → Prop
  | settings {e : Expr} {s : String} (h : e.Names s) :
    WellTyped (.named MarkerOption.settings.name (.value e))
  | instanceWriter (b : Bool) :
    WellTyped (.named MarkerOption.instanceWriter.name (.value (.literal (.boolean b))))

/-- An item has no value of its option's type, but counts as if it had one. -/
inductive Lax : Item → Prop
  | word : Lax (.named MarkerOption.instanceWriter.name .word)
  | text (b : Bool) :
    Lax (.named MarkerOption.instanceWriter.name (.value (.literal (.string (truthText b)))))

/-- No item is both well typed and lax. -/
theorem Lax.not_wellTyped {i : Item} (h : i.Lax) : ¬i.WellTyped := by
  intro htyped
  have hname : MarkerOption.instanceWriter.name ≠ MarkerOption.settings.name := by decide
  cases h with
  | word =>
    generalize hbody : ItemBody.word = body at htyped
    generalize MarkerOption.instanceWriter.name = name at htyped
    cases htyped <;> cases hbody
  | text b =>
    generalize hitem : Item.named _ _ = i at htyped
    cases htyped with
    | settings h => exact hname (Item.named.inj hitem).1
    | instanceWriter b' => cases (Item.named.inj hitem).2

/-- **An item gives a value** exactly if it is well typed or lax. -/
theorem gives_iff (i : Item) : i.Gives ↔ i.WellTyped ∨ i.Lax := by
  simp only [Gives, MarkerOption.valueOf_eq_ok_iff]
  constructor
  · rintro ⟨option, body, v, rfl, h | b | b | _⟩
    · exact Or.inl (.settings h)
    · exact Or.inl (.instanceWriter b)
    · exact Or.inr (.text b)
    · exact Or.inr .word
  · rintro ((h | b) | (_ | b))
    · exact ⟨.settings, _, _, rfl, .member h⟩
    · exact ⟨.instanceWriter, _, b, rfl, .truth b⟩
    · exact ⟨.instanceWriter, _, true, rfl, .word⟩
    · exact ⟨.instanceWriter, _, b, rfl, .text b⟩

end Item

/-! ## Arguments -/

/-- An item is an evaluated argument: it has the identifier that the argument's name spells, and the
literal for its value. -/
def IsEvaluated (a : NamedArgument) (i : Item) : Prop :=
  ∃ name l, identifier? a.name = some name ∧ literalOf? a.value = some l ∧
    i = .named name (.value (.literal l))

/-- Items are the arguments of a use of a marker: the evaluated ones apart from null, or if there are
none, those of the argument list as written. -/
inductive ArgumentsOf (usage : AttributeUsage) (items : List Item) : Prop
  | evaluated (hsome : usage.named ≠ [])
    (h : List.Forall₂ IsEvaluated (withoutNull usage.named) items)
  | written (hnone : usage.named = []) {tokens : List Token}
    (htokens : Lexer.tokenize? usage.arguments = some tokens) (h : Item.listOf tokens = .ok items)

theorem literalOf?_isSome {value : Constant} (h : value ≠ .null) : ∃ l, literalOf? value = some l := by
  cases value with
  | null => exact absurd rfl h
  | boolean b => exact ⟨_, rfl⟩
  | integer n => exact ⟨_, rfl⟩
  | string s => exact ⟨_, rfl⟩

/-- Evaluated arguments become items one by one. -/
theorem itemsOfNamed_eq_ok_iff {as : List NamedArgument} {items : List Item}
    (has : ∀ a ∈ as, a.value ≠ .null) :
    itemsOfNamed as = .ok items ↔ List.Forall₂ IsEvaluated as items := by
  induction as generalizing items with
  | nil =>
    rw [itemsOfNamed, List.forall₂_nil_left_iff, Except.ok.injEq, eq_comm]
  | cons a as ih =>
    obtain ⟨hvalue, has⟩ := List.forall_mem_cons.mp has
    obtain ⟨l, hl⟩ := literalOf?_isSome hvalue
    rw [itemsOfNamed, hl, List.forall₂_cons_left_iff]
    dsimp only
    cases hname : identifier? a.name with
    | none => simp [IsEvaluated, hname]
    | some name =>
      have hfirst : ∀ i, IsEvaluated a i ↔ i = .named name (.value (.literal l)) := by
        intro i
        simp [IsEvaluated, hname, hl]
      simp only [hfirst, ← ih has]
      cases itemsOfNamed as with
      | error e => simp [bind, Except.bind]
      | ok rest => simp [bind, Except.bind, pure, Except.pure, eq_comm]

/-- The items of an argument list are those of its tokens. -/
theorem itemsOfText_eq_ok_iff {text : String} {items : List Item} :
    itemsOfText text = .ok items ↔
      ∃ tokens, Lexer.tokenize? text = some tokens ∧ Item.listOf tokens = .ok items := by
  rw [itemsOfText]
  cases Lexer.tokenize? text with
  | none => simp
  | some tokens => cases hitems : Item.listOf tokens <;> simp [Except.mapError, hitems]

/-- A use of a marker binds if its arguments do. -/
theorem bindUsage_eq_ok_iff {usage : AttributeUsage} {o : MarkerOptions} :
    bindUsage usage = .ok o ↔ ∃ items, ArgumentsOf usage items ∧ bindItems items = .ok o := by
  obtain ⟨path, named, arguments⟩ := usage
  rw [bindUsage]
  cases named with
  | nil =>
    have harguments : ∀ items, ArgumentsOf ⟨path, [], arguments⟩ items ↔
        itemsOfText arguments = .ok items := by
      intro items
      rw [itemsOfText_eq_ok_iff]
      constructor
      · rintro (⟨hsome, -⟩ | ⟨-, htokens, h⟩)
        · exact absurd rfl hsome
        · exact ⟨_, htokens, h⟩
      · rintro ⟨tokens, htokens, h⟩
        exact .written rfl htokens h
    simp only [harguments]
    rw [List.isEmpty_nil, if_pos rfl]
    cases itemsOfText arguments <;> simp [bind, Except.bind]
  | cons a as =>
    have harguments : ∀ items, ArgumentsOf ⟨path, a :: as, arguments⟩ items ↔
        itemsOfNamed (a :: as) = .ok items := by
      intro items
      have hnull : ∀ b ∈ withoutNull (a :: as), b.value ≠ .null := by
        intro b hb
        exact of_decide_eq_true (List.mem_filter.mp hb).2
      rw [← itemsOfNamed_withoutNull, itemsOfNamed_eq_ok_iff hnull]
      constructor
      · rintro (⟨-, h⟩ | ⟨hnone, -, -⟩)
        · exact h
        · cases hnone
      · exact fun h => .evaluated (List.cons_ne_nil a as) h
    simp only [harguments]
    rw [List.isEmpty_cons, if_neg Bool.false_ne_true]
    cases itemsOfNamed (a :: as) <;> simp [bind, Except.bind]

/-- What a use of an attribute binds to for an engine. -/
theorem bindUsageFor?_eq_ok_iff {usage : AttributeUsage} {e : Engine} {r : Option MarkerOptions} :
    bindUsageFor? usage e = .ok r ↔
      (usage.is e.markerPath = true ∧ ∃ o, bindUsage usage = .ok o ∧ r = some o) ∨
        (usage.is e.markerPath = false ∧ r = none) := by
  rw [bindUsageFor?]
  cases usage.is e.markerPath with
  | false => simp [eq_comm]
  | true => cases bindUsage usage <;> simp [eq_comm]

/-- **Which markers bind**: those whose arguments are well typed or lax, without a second one for an
option. -/
theorem binds_iff_typed_or_lax (usage : AttributeUsage) (e : Engine) :
    (∃ o, bindUsageFor? usage e = .ok (some o)) ↔
      usage.is e.markerPath = true ∧ ∃ items, ArgumentsOf usage items ∧
        (∀ i ∈ items, i.WellTyped ∨ i.Lax) ∧ (items.map Item.option?).Nodup := by
  have hitems : ∀ items, (∃ o, bindItems items = .ok o) ↔
      (∀ i ∈ items, i.WellTyped ∨ i.Lax) ∧ (items.map Item.option?).Nodup := by
    intro items
    simp only [← Item.gives_iff, ← faultsOf_eq_nil_iff]
    exact bindItems_isOk_iff items
  have husage : (∃ o, bindUsage usage = .ok o) ↔ ∃ items, ArgumentsOf usage items ∧
      (∀ i ∈ items, i.WellTyped ∨ i.Lax) ∧ (items.map Item.option?).Nodup := by
    simp only [bindUsage_eq_ok_iff, ← hitems]
    constructor
    · rintro ⟨o, items, harguments, ho⟩
      exact ⟨items, harguments, o, ho⟩
    · rintro ⟨items, harguments, o, ho⟩
      exact ⟨o, items, harguments, ho⟩
  rw [← husage]
  simp only [bindUsageFor?_eq_ok_iff]
  constructor
  · rintro ⟨o, ⟨hpath, o', ho', -⟩ | ⟨-, ⟨⟩⟩⟩
    exact ⟨hpath, o', ho'⟩
  · rintro ⟨hpath, o, ho⟩
    exact ⟨o, Or.inl ⟨hpath, o, ho, rfl⟩⟩

/-- A marker for JSON that asks for a writer on the instance with a string. -/
def textForTruth : AttributeUsage :=
  ⟨Engine.json.markerPath, [], "ImplementInstanceWriteMethod = \"true\""⟩

set_option maxRecDepth 5000 in
/-- Not every marker that binds has well-typed arguments. -/
theorem not_only_typed_of_string :
    ¬∀ (usage : AttributeUsage) (e : Engine) (o : MarkerOptions),
      bindUsageFor? usage e = .ok (some o) → ∃ items, ArgumentsOf usage items ∧
        (∀ i ∈ items, i.WellTyped) ∧ (items.map Item.option?).Nodup := by
  intro h
  have hbinds : bindUsageFor? textForTruth .json = .ok (some ⟨none, true⟩) := by decide +kernel
  obtain ⟨items, harguments, htyped, -⟩ := h _ _ _ hbinds
  rcases harguments with ⟨hsome, -⟩ | ⟨-, htokens, hitems⟩
  · exact absurd rfl hsome
  · have htokens' : Lexer.tokenize? textForTruth.arguments =
        some [.ident "ImplementInstanceWriteMethod" false, .punct '=' false,
          .literal (.string "true")] := rfl
    rw [htokens'] at htokens
    rw [← Option.some.inj htokens] at hitems
    have hitems' : Item.listOf [.ident "ImplementInstanceWriteMethod" false, .punct '=' false,
        .literal (.string "true")] =
          .ok [.named MarkerOption.instanceWriter.name
            (.value (.literal (.string (truthText true))))] := rfl
    rw [hitems'] at hitems
    rw [← Except.ok.inj hitems, List.forall_mem_singleton] at htyped
    exact (Item.Lax.text true).not_wellTyped htyped

end DataContract.Marker
