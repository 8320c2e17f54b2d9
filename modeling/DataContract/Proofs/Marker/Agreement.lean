import DataContract.Proofs.Marker.Parsing
import DataContract.Proofs.Marker.Typing

/-!
# Written and evaluated arguments agree

The arguments of a marker come as constants that have been evaluated, or as the text of the argument
list.  It makes no difference which: a text that spells a list binds to the options that the list
binds to, and fails if the list does (`text_agrees_with_constants`).

The items of the two are not quite the same.  A negative integer before a comma is no literal when
it has been written (`ReadsAs`), and a keyword is a name there, but no name of an evaluated
argument.  Both are wrong either way: no option takes an integer, and none is named by a keyword.  So
items are compared by what they give to the options (`Item.Equally`), and that is all that binding
depends on (`bindItems_congr`).
-/

namespace DataContract.Marker

open Declaration

/-! ## Items that set the same options -/

/-- Two items have the same name, and give the same values to the options. -/
inductive Item.Equally : Item → Item → Prop
  | intro {name : String} {body body' : ItemBody}
    (h : ∀ (o : MarkerOptions) option o', o.set option body = .ok o' ↔ o.set option body' = .ok o') :
    Equally (.named name body) (.named name body')

namespace BindingState

/-- Two states of binding have the same options, and there have been faults in both or in neither. -/
structure Alike (s s' : BindingState) : Prop where
  options : s.options = s'.options
  seen : s.seen = s'.seen
  faultless : s.faults = [] ↔ s'.faults = []

variable {s s' : BindingState}

theorem Alike.refuse (h : s.Alike s') (f f' : ArgumentFault) : (s.refuse f).Alike (s'.refuse f') :=
  ⟨h.options, h.seen, by simp [BindingState.refuse]⟩

/-- Items that give the same values keep states alike. -/
theorem Alike.bindItem (h : s.Alike s') {i i' : Item} (hi : i.Equally i') :
    (s.bindItem i).Alike (s'.bindItem i') := by
  obtain @⟨name, body, body', hbody⟩ := hi
  rw [BindingState.bindItem, BindingState.bindItem]
  cases MarkerOption.ofName? name with
  | none => exact h.refuse _ _
  | some option =>
    dsimp only
    rw [h.seen, h.options]
    split
    · exact h.refuse _ _
    · have hvalue := hbody s'.options option
      cases hset : s'.options.set option body with
      | ok o =>
        rw [(hvalue o).mp hset]
        exact ⟨rfl, rfl, h.faultless⟩
      | error f =>
        cases hset' : s'.options.set option body' with
        | ok o =>
          rw [(hvalue o).mpr hset'] at hset
          cases hset
        | error f' =>
          exact ⟨rfl, rfl, by simp [BindingState.refuse]⟩

/-- Binding succeeds with the options if there have been no faults. -/
theorem result_eq_ok_iff {o : MarkerOptions} : s.result = .ok o ↔ s.faults = [] ∧ s.options = o := by
  rw [result, ← List.reverse_eq_nil_iff]
  cases s.faults.reverse <;> simp

theorem Alike.result (h : s.Alike s') {o : MarkerOptions} : s.result = .ok o ↔ s'.result = .ok o := by
  rw [result_eq_ok_iff, result_eq_ok_iff, h.faultless, h.options]

end BindingState

theorem alike_foldl {items items' : List Item} (h : List.Forall₂ Item.Equally items items')
    {s s' : BindingState} (hs : s.Alike s') :
    (items.foldl BindingState.bindItem s).Alike (items'.foldl BindingState.bindItem s') := by
  induction h generalizing s s' with
  | nil => exact hs
  | cons hi _ ih => exact ih (hs.bindItem hi)

/-- **Items that give the same values bind to the same options**, or to none. -/
theorem bindItems_congr {items items' : List Item} (h : List.Forall₂ Item.Equally items items')
    {o : MarkerOptions} : bindItems items = .ok o ↔ bindItems items' = .ok o :=
  (alike_foldl h ⟨rfl, rfl, Iff.rfl⟩).result

/-! ## Arguments -/

/-- An identifier that is no keyword names an evaluated argument as it is spelled. -/
theorem identifier?_eq {name n : String} {raw : Bool}
    (h : Lexer.anyIdent? name.toList = some (.ident n raw, [])) :
    identifier? name = if isName n raw then some (spelling n raw) else none := by
  have htokens : Lexer.tokenize? name = some [.ident n raw] := by
    have hlexes := Lexer.lexes_nil.identifier h Lexer.closes_nil.stops
    have hmark := Lexer.head?_append_of_anyIdent? (c := Lexer.byteOrderMark) h (by decide +kernel) []
    rw [List.append_nil] at hlexes hmark
    exact Lexer.tokenize?_of_lexes hlexes hmark
  rw [identifier?, htokens]

/-- What is read for a value gives what the value gives. -/
theorem ReadsAs.set_eq_ok_iff {value : Constant} {e : Expr} (h : ReadsAs value e) {l : Literal}
    (hl : literalOf? value = some l) (o : MarkerOptions) (option : MarkerOption) (o' : MarkerOptions) :
    o.set option (.value e) = .ok o' ↔ o.set option (.value (.literal l)) = .ok o' := by
  cases h with
  | literal h =>
    rw [h] at hl
    rw [Option.some.inj hl]
  | negative n =>
    obtain rfl := Option.some.inj hl
    cases option <;> constructor <;> rintro ⟨⟩

theorem equally_of_reads {a : NamedArgument} {i i' : Item} (h : ReadsArgument a i)
    (h' : IsEvaluated a i') : i.Equally i' := by
  obtain @⟨name, value, n, raw, e, hname, hvalue⟩ := h
  obtain ⟨name', l, hname', hl, rfl⟩ := h'
  dsimp only at hname' hl
  rw [identifier?_eq hname] at hname'
  split at hname'
  · rw [← Option.some.inj hname']
    exact .intro (hvalue.set_eq_ok_iff hl)
  · cases hname'

/-- No option is named by a keyword. -/
theorem isName_of_option {n : String} {raw : Bool} {option : MarkerOption}
    (h : spelling n raw = option.name) : isName n raw = true := by
  cases raw with
  | true => rfl
  | false =>
    obtain rfl : n = option.name := h
    cases option <;> decide

/-- What gives a value as it is written does so when it is evaluated. -/
theorem isEvaluated_of_gives {a : NamedArgument} {i : Item} (h : ReadsArgument a i)
    (hvalue : a.value ≠ .null) (hgives : i.Gives) : ∃ i', IsEvaluated a i' := by
  obtain @⟨name, value, n, raw, e, hname, -⟩ := h
  obtain ⟨l, hl⟩ := literalOf?_isSome hvalue
  obtain ⟨option, body, v, hi, -⟩ := hgives
  have hword := isName_of_option (Item.named.inj hi).1
  exact ⟨_, spelling n raw, l, by rw [identifier?_eq hname, if_pos hword], hl, rfl⟩

theorem forall₂_equally {as : List NamedArgument} {items items' : List Item}
    (h : List.Forall₂ ReadsArgument as items) (h' : List.Forall₂ IsEvaluated as items') :
    List.Forall₂ Item.Equally items items' := by
  induction h generalizing items' with
  | nil =>
    cases h'
    exact .nil
  | cons hi _ ih =>
    cases h' with
    | cons hi' h' => exact .cons (equally_of_reads hi hi') (ih h')

theorem exists_forall₂_isEvaluated {as : List NamedArgument} {items : List Item}
    (h : List.Forall₂ ReadsArgument as items) (hvalues : ∀ a ∈ as, a.value ≠ .null)
    (hgives : ∀ i ∈ items, i.Gives) : ∃ items', List.Forall₂ IsEvaluated as items' := by
  induction h with
  | nil => exact ⟨[], .nil⟩
  | cons hi _ ih =>
    obtain ⟨hvalue, hvalues⟩ := List.forall_mem_cons.mp hvalues
    obtain ⟨hgive, hgives⟩ := List.forall_mem_cons.mp hgives
    obtain ⟨i', hi'⟩ := isEvaluated_of_gives hi hvalue hgive
    obtain ⟨items', h'⟩ := ih hvalues hgives
    exact ⟨i' :: items', .cons hi' h'⟩

/-- **Written arguments bind as the evaluated ones do.** -/
theorem bindItems_iff_named {as : List NamedArgument} {items : List Item}
    (h : List.Forall₂ ReadsArgument as items) (hvalues : ∀ a ∈ as, a.value ≠ .null)
    {o : MarkerOptions} :
    bindItems items = .ok o ↔ ∃ items', itemsOfNamed as = .ok items' ∧ bindItems items' = .ok o := by
  simp only [itemsOfNamed_eq_ok_iff hvalues]
  constructor
  · -- If the written items bind, they name options, so there are no keywords among the names.
    intro ho
    have hgives := ((faultsOf_eq_nil_iff items).mp (bindItems_eq_ok_iff.mp ho).1).1
    obtain ⟨items', h'⟩ := exists_forall₂_isEvaluated h hvalues hgives
    exact ⟨items', h', (bindItems_congr (forall₂_equally h h')).mp ho⟩
  · rintro ⟨items', h', ho⟩
    exact (bindItems_congr (forall₂_equally h h')).mpr ho

/-- A text that spells a list binds as the list does. -/
theorem bindUsage_text_iff {as : List NamedArgument} {text : String} (hspells : Spells as text.toList)
    (hnames : ∀ a ∈ as, IsIdentifier a.name) (hvalues : ∀ a ∈ as, a.value ≠ .null)
    (path ignored : String) {o : MarkerOptions} :
    bindUsage ⟨path, [], text⟩ = .ok o ↔ bindUsage ⟨path, as, ignored⟩ = .ok o := by
  obtain ⟨ts, hts, htokens⟩ := hspells.tokenize? hnames hvalues
  obtain ⟨items, hitems, hlist⟩ := hts.listOf
  have hnamed : as.isEmpty = false := List.isEmpty_eq_false_iff.mpr hspells.ne_nil
  have hwritten : itemsOfText text = .ok items := itemsOfText_eq_ok_iff.mpr ⟨ts, htokens, hlist⟩
  rw [bindUsage, List.isEmpty_nil, if_pos rfl, bindUsage, hnamed, if_neg Bool.false_ne_true, hwritten]
  show bindItems items = .ok o ↔ _
  rw [bindItems_iff_named hitems hvalues]
  cases itemsOfNamed as <;> simp [bind, Except.bind]

/-- The names of options are identifiers as they are. -/
theorem anyIdent?_option (option : MarkerOption) :
    Lexer.anyIdent? option.name.toList = some (.ident option.name false, []) := by
  have hword : Lexer.IsWord option.name.toList := by
    cases option <;> decide +kernel
  rw [hword.anyIdent?, String.ofList_toList]

theorem identifier?_option (option : MarkerOption) : identifier? option.name = some option.name := by
  rw [identifier?_eq (anyIdent?_option option), if_pos (isName_of_option rfl)]
  rfl

/-- A string that is given for the settings is what they are. -/
theorem settings_of_bindUsage {as : List NamedArgument} (hvalues : ∀ a ∈ as, a.value ≠ .null)
    {path ignored s : String} {o : MarkerOptions} (hmem : ⟨Engine.settingsOption, .string s⟩ ∈ as)
    (h : bindUsage ⟨path, as, ignored⟩ = .ok o) : o.settings = some s := by
  have hnamed : as.isEmpty = false := List.isEmpty_eq_false_iff.mpr (List.ne_nil_of_mem hmem)
  rw [bindUsage, hnamed, if_neg Bool.false_ne_true] at h
  dsimp only at h
  cases hitems : itemsOfNamed as with
  | error error =>
    rw [hitems] at h
    cases h
  | ok items =>
    rw [hitems] at h
    have hforall := (itemsOfNamed_eq_ok_iff hvalues).mp hitems
    obtain ⟨k, hk, hget⟩ := List.getElem_of_mem hmem
    have hevaluated := hforall.get hk (hforall.length_eq ▸ hk)
    rw [List.get_eq_getElem, hget] at hevaluated
    obtain ⟨name, l, hname, ⟨⟩, hi⟩ := hevaluated
    have hsettings : some name = some MarkerOption.settings.name :=
      hname.symm.trans (identifier?_option .settings)
    have hitem : .named MarkerOption.settings.name (.value (.literal (.string s))) ∈ items := by
      rw [← Option.some.inj hsettings, ← hi]
      exact List.get_mem _ _
    exact (Except.ok.inj ((bindItems_eq_ok_iff.mp h).2.given .settings _ hitem)).symm

/-- A string for the settings alone binds to itself. -/
theorem bindUsage_settings (path ignored s : String) :
    bindUsage ⟨path, [⟨MarkerOption.settings.name, .string s⟩], ignored⟩ = .ok ⟨some s, false⟩ := by
  have hitems : itemsOfNamed [⟨MarkerOption.settings.name, .string s⟩] =
      .ok [.named MarkerOption.settings.name (.value (.literal (.string s)))] := by
    rw [itemsOfNamed, literalOf?]
    dsimp only
    rw [identifier?_option]
    rfl
  rw [bindUsage]
  dsimp only
  rw [hitems]
  rfl

/-- **A text that spells a list of arguments binds as the evaluated arguments do.** -/
theorem text_agrees_with_constants {as : List NamedArgument} (hne : as ≠ [])
    (hnames : ∀ a ∈ as, IsIdentifier a.name) (hvalues : ∀ a ∈ as, a.value ≠ .null) :
    (∃ text : String, Spells as text.toList) ∧
      ∀ text : String, Spells as text.toList → ∀ (path ignored : String) (e : Engine),
        (∀ r, bindUsageFor? ⟨path, [], text⟩ e = .ok r ↔
          bindUsageFor? ⟨path, as, ignored⟩ e = .ok r) ∧
        (∀ s o, ⟨Engine.settingsOption, .string s⟩ ∈ as →
          bindUsageFor? ⟨path, [], text⟩ e = .ok (some o) → o.settings = some s) ∧
        ∀ s, as = [⟨Engine.settingsOption, .string s⟩] →
          bindUsageFor? ⟨e.markerPath, [], text⟩ e = .ok (some ⟨some s, false⟩) := by
  refine ⟨?_, fun text hspells path ignored e => ⟨fun r => ?_, ?_, ?_⟩⟩
  · obtain ⟨cs, hcs⟩ := exists_spells hne
    exact ⟨String.ofList cs, by rwa [String.toList_ofList]⟩
  · have hbind := fun o => bindUsage_text_iff hspells hnames hvalues path ignored (o := o)
    rw [bindUsageFor?_eq_ok_iff, bindUsageFor?_eq_ok_iff]
    simp only [hbind, AttributeUsage.is]
  · intro s o hmem hbind
    obtain ⟨-, o', ho', ⟨⟩⟩ | ⟨-, ⟨⟩⟩ := bindUsageFor?_eq_ok_iff.mp hbind
    exact settings_of_bindUsage hvalues hmem
      ((bindUsage_text_iff hspells hnames hvalues path ignored).mp ho')
  · rintro s rfl
    have hbind := (bindUsage_text_iff hspells hnames hvalues e.markerPath ignored).mpr
      (bindUsage_settings e.markerPath ignored s)
    exact bindUsageFor?_eq_ok_iff.mpr (Or.inl ⟨beq_self_eq_true e.markerPath, _, hbind, rfl⟩)

/-- Two arguments, one of them a string in which every character has to be escaped. -/
def escapedArguments : List NamedArgument :=
  [⟨Engine.settingsOption, .string "\"\\\r"⟩, ⟨Engine.instanceWriterOption, .boolean true⟩]

/-- The same arguments as they may be written. -/
def escapedText : String :=
  "SettingsMember = \"\\\"\\\\\\r\",\n\tImplementInstanceWriteMethod=true "

/-- They bind to the string that has been written and to the truth value. -/
theorem text_agrees_with_constants_escaped :
    Spells escapedArguments escapedText.toList ∧
      bindUsageFor? ⟨Engine.json.markerPath, [], escapedText⟩ .json =
        .ok (some ⟨some "\"\\\r", true⟩) := by
  have hspace : Blank [' '] := by decide
  have hlines : Blank ['\n', '\t'] := by decide
  have htext : escapedText.toList =
      ([] ++ (Engine.settingsOption.toList ++
        ([' '] ++ '=' :: ([' '] ++ (literalText (.string "\"\\\r") ++ []))))) ++
      ',' :: (['\n', '\t'] ++ (Engine.instanceWriterOption.toList ++
        ([] ++ '=' :: ([] ++ (literalText (.boolean true) ++ [' ']))))) := by
    decide +kernel
  have hspells : Spells escapedArguments escapedText.toList := by
    rw [htext]
    exact .more (.intro blank_nil hspace hspace blank_nil)
      (.one (.intro hlines blank_nil blank_nil hspace))
  have hnames : ∀ a ∈ escapedArguments, IsIdentifier a.name :=
    List.forall_mem_cons.mpr ⟨⟨_, anyIdent?_option .settings⟩,
      List.forall_mem_singleton.mpr ⟨_, anyIdent?_option .instanceWriter⟩⟩
  have hnamed : bindUsageFor? ⟨Engine.json.markerPath, escapedArguments, ""⟩ .json =
      .ok (some ⟨some "\"\\\r", true⟩) := by
    decide +kernel
  exact ⟨hspells, ((text_agrees_with_constants (by decide) hnames (by decide)).2 escapedText hspells
    Engine.json.markerPath "" .json).1 _ |>.mpr hnamed⟩

end DataContract.Marker
