import DataContract.Proofs.Marker.Values
import Mathlib.Data.List.Induction
import Mathlib.Data.List.Nodup

/-!
# Binding item by item

Binding walks over the items with the options set so far, those that have occurred, and the faults.
What becomes of an item depends on the ones before it only through the options that they name.  So
the faults of a list can be told item by item, without walking: `Item.fault?` is what is wrong with
an item behind others, and `Item.Offends` says in which four ways an item can be wrong.

* `Standing.step` --- the invariant of the walk, which an item keeps whether it offends or not;
  `standing_bound` carries it over a whole list.
* `bindItems_eq_ok_iff` --- a list binds exactly if every item gives an option a value and no option
  occurs twice.  That does not depend on the order.
* `itemsOfNamed_withoutNull` --- evaluated arguments are the same items without those that are null.

`bindItems_by_item` puts this together.
-/

namespace DataContract.Marker

open Declaration

/-! ## The names of options -/

namespace MarkerOption

theorem ofName?_name (option : MarkerOption) : ofName? option.name = some option := by
  cases option <;> decide

theorem name_injective : Function.Injective name := by
  intro a b h
  exact Option.some.inj (by rw [← ofName?_name a, h, ofName?_name])

/-- An option is found by its name and by no other. -/
theorem ofName?_eq_some_iff {name : String} {option : MarkerOption} :
    ofName? name = some option ↔ name = option.name := by
  constructor
  · intro h
    have hname := List.find?_some h
    exact (beq_iff_eq.mp hname).symm
  · rintro rfl
    exact ofName?_name option

theorem ofName?_eq_none_iff {name : String} :
    ofName? name = none ↔ ∀ option : MarkerOption, name ≠ option.name := by
  simp only [Option.eq_none_iff_forall_ne_some, ne_eq, ofName?_eq_some_iff]

end MarkerOption

/-! ## The values of options -/

namespace MarkerOptions

/-- The value of an option. -/
def get (o : MarkerOptions) : (option : MarkerOption) → option.Value
  | .settings => o.settings
  | .instanceWriter => o.instanceWriter

/-- The options with another value for one of them. -/
def put (o : MarkerOptions) : (option : MarkerOption) → option.Value → MarkerOptions
  | .settings, v => { o with settings := v }
  | .instanceWriter, v => { o with instanceWriter := v }

@[simp] theorem get_put (o : MarkerOptions) (option : MarkerOption) (v : option.Value) :
    (o.put option v).get option = v := by
  cases option <;> rfl

theorem get_put_of_ne (o : MarkerOptions) {option other : MarkerOption} (v : option.Value)
    (h : other ≠ option) : (o.put option v).get other = o.get other := by
  cases option <;> cases other <;> first | rfl | exact absurd rfl h

/-- Options with the same values are the same. -/
theorem ext_get {o o' : MarkerOptions} (h : ∀ option, o.get option = o'.get option) : o = o' :=
  mk.injEq .. ▸ ⟨h .settings, h .instanceWriter⟩

/-- An argument sets its option to the value that it gives. -/
theorem set_eq (o : MarkerOptions) (option : MarkerOption) (body : ItemBody) :
    o.set option body = (option.valueOf body).map (o.put option) := by
  cases option <;> cases body
  case settings.value e =>
    show (do return { o with settings := some (← settingsOf e) } : Except _ _) = _
    rw [MarkerOption.valueOf]
    cases settingsOf e <;> rfl
  case instanceWriter.value e =>
    show (do return { o with instanceWriter := ← instanceWriterOf e } : Except _ _) = _
    rw [MarkerOption.valueOf]
    cases instanceWriterOf e <;> rfl
  all_goals rfl

end MarkerOptions

/-! ## Items behind others -/

namespace Item

/-- The option that an item names. -/
def option? : Item → Option MarkerOption
  | literal _ => none
  | named name _ => MarkerOption.ofName? name

theorem option?_eq_some_iff {i : Item} {option : MarkerOption} :
    i.option? = some option ↔ ∃ body, i = .named option.name body := by
  cases i with
  | literal l => simp [option?]
  | named name body => simp [option?, MarkerOption.ofName?_eq_some_iff]

/-- An item is wrong behind others. -/
inductive Offends (before : List Item) : Item → Prop
  | literal (l : Literal) : Offends before (.literal l)
  | unknown {name : String} {body : ItemBody} (h : ∀ option : MarkerOption, name ≠ option.name) :
    Offends before (.named name body)
  | repeated {option : MarkerOption} {first body : ItemBody}
    (h : .named option.name first ∈ before) : Offends before (.named option.name body)
  | refused {option : MarkerOption} {body : ItemBody} {f : ValueFault}
    (h : option.valueOf body = .error f) : Offends before (.named option.name body)

/-- What is wrong with an item behind others. -/
def fault? (before : List Item) : Item → Option ArgumentFault
  | literal _ => some .positional
  | named name body =>
    match MarkerOption.ofName? name with
    | none => some (.unknown name)
    | some option =>
      if some option ∈ before.map option? then some (.duplicate option)
      else
        match option.valueOf body with
        | .ok _ => none
        | .error f => some (.value option f)

/-- An item gives a value to the option that it names. -/
def Gives (i : Item) : Prop :=
  ∃ option body v, i = .named option.name body ∧ MarkerOption.valueOf option body = .ok v

theorem mem_map_option?_iff {before : List Item} {option : MarkerOption} :
    some option ∈ before.map option? ↔ ∃ body, .named option.name body ∈ before := by
  simp only [List.mem_map, option?_eq_some_iff]
  constructor
  · rintro ⟨i, hi, body, rfl⟩
    exact ⟨body, hi⟩
  · rintro ⟨body, hbody⟩
    exact ⟨_, hbody, body, rfl⟩

variable {before : List Item} {i : Item}

/-- **There is nothing wrong with an item** exactly if it gives a value to an option that has not
occurred. -/
theorem fault?_eq_none_iff :
    i.fault? before = none ↔ i.Gives ∧ i.option? ∉ before.map option? := by
  cases i with
  | literal l => simp [fault?, Gives]
  | named name body =>
    rw [fault?, option?]
    cases hname : MarkerOption.ofName? name with
    | none =>
      have hunknown := MarkerOption.ofName?_eq_none_iff.mp hname
      simp [Gives, hunknown]
    | some option =>
      obtain rfl := MarkerOption.ofName?_eq_some_iff.mp hname
      have hgives : (named option.name body).Gives ↔ ∃ v, option.valueOf body = .ok v := by
        constructor
        · rintro ⟨other, body', v, heq, hv⟩
          rw [named.injEq] at heq
          obtain ⟨hsame, rfl⟩ := heq
          obtain rfl := MarkerOption.name_injective hsame
          exact ⟨v, hv⟩
        · rintro ⟨v, hv⟩
          exact ⟨option, body, v, rfl, hv⟩
      rw [hgives]
      by_cases hseen : some option ∈ before.map option?
      · simp [hseen]
      · cases hvalue : option.valueOf body <;> simp [hseen, hvalue]

/-- An item that gives a value to a new option does not offend. -/
theorem Gives.not_offends (hgives : i.Gives) (hnew : i.option? ∉ before.map option?) :
    ¬i.Offends before := by
  obtain ⟨option, body, v, rfl, hv⟩ := hgives
  rw [option?, MarkerOption.ofName?_name, mem_map_option?_iff] at hnew
  intro h
  generalize hi : Item.named option.name body = i at h
  cases h with
  | literal l => cases hi
  | unknown h =>
    cases hi
    exact h option rfl
  | repeated h =>
    rw [named.injEq] at hi
    exact hnew ⟨_, hi.1 ▸ h⟩
  | refused h =>
    rw [named.injEq] at hi
    obtain ⟨hname, rfl⟩ := hi
    obtain rfl := MarkerOption.name_injective hname
    rw [hv] at h
    cases h

/-- An item offends if it gives no value to a new option. -/
theorem offends_of_not_gives (h : ¬(i.Gives ∧ i.option? ∉ before.map option?)) :
    i.Offends before := by
  cases i with
  | literal l => exact .literal l
  | named name body =>
    cases hname : MarkerOption.ofName? name with
    | none => exact .unknown (MarkerOption.ofName?_eq_none_iff.mp hname)
    | some option =>
      obtain rfl := MarkerOption.ofName?_eq_some_iff.mp hname
      cases hvalue : option.valueOf body with
      | error f => exact .refused hvalue
      | ok v =>
        rw [option?, MarkerOption.ofName?_name, mem_map_option?_iff, not_and_not_right] at h
        obtain ⟨first, hfirst⟩ := h ⟨option, body, v, rfl, hvalue⟩
        exact .repeated hfirst

/-- An item offends exactly if something is wrong with it. -/
theorem offends_iff : i.Offends before ↔ (i.fault? before).isSome := by
  rw [← Option.ne_none_iff_isSome, ne_eq, fault?_eq_none_iff]
  exact ⟨fun h hgives => hgives.1.not_offends hgives.2 h, offends_of_not_gives⟩

instance (before : List Item) (i : Item) : Decidable (i.Offends before) :=
  decidable_of_iff _ offends_iff.symm

end Item

/-! ## Lists of items -/

/-- The items of a list behind others, each with all that stands before it. -/
def placedBehind (before : List Item) : List Item → List (List Item × Item)
  | [] => []
  | i :: rest => (before, i) :: placedBehind (before ++ [i]) rest

/-- The items of a list, each with those before it. -/
def placed (items : List Item) : List (List Item × Item) := placedBehind [] items

/-- The items that offend, in order, each with those before it. -/
def offending (items : List Item) : List (List Item × Item) :=
  (placed items).filter fun p => decide (p.2.Offends p.1)

/-- What is wrong with the items of a list, in order. -/
def faultsOf (items : List Item) : List ArgumentFault :=
  (placed items).filterMap fun p => p.2.fault? p.1

theorem placedBehind_append (before xs ys : List Item) :
    placedBehind before (xs ++ ys) =
      placedBehind before xs ++ placedBehind (before ++ xs) ys := by
  induction xs generalizing before with
  | nil => rw [List.append_nil, List.nil_append, placedBehind, List.nil_append]
  | cons i xs ih =>
    rw [List.cons_append, placedBehind, ih, placedBehind, List.cons_append, List.append_assoc,
      List.singleton_append]

theorem faultsOf_concat (items : List Item) (i : Item) :
    faultsOf (items ++ [i]) = faultsOf items ++ (i.fault? items).toList := by
  rw [faultsOf, placed, placedBehind_append, List.filterMap_append, ← placed, ← faultsOf]
  cases h : i.fault? items <;> simp [placedBehind, h]

/-- There is one fault for each item that offends, in order. -/
theorem forall₂_offending (items : List Item) :
    List.Forall₂ (fun p f => p.2.fault? p.1 = some f) (offending items) (faultsOf items) := by
  rw [offending, faultsOf]
  induction placed items with
  | nil => exact .nil
  | cons p ps ih =>
    cases h : p.2.fault? p.1 with
    | none =>
      have hsound : ¬p.2.Offends p.1 := by simp [Item.offends_iff, h]
      rw [List.filter_cons_of_neg (by simpa using hsound), List.filterMap_cons, h]
      exact ih
    | some f =>
      have hoffends : p.2.Offends p.1 := by simp [Item.offends_iff, h]
      rw [List.filter_cons_of_pos (by simpa using hoffends), List.filterMap_cons, h]
      exact .cons h ih

/-- There are no faults exactly if every item gives a value and no option occurs twice. -/
theorem faultsOf_eq_nil_iff (items : List Item) :
    faultsOf items = [] ↔ (∀ i ∈ items, i.Gives) ∧ (items.map Item.option?).Nodup := by
  induction items using List.reverseRecOn with
  | nil => simp [faultsOf, placed, placedBehind]
  | append_singleton items i ih =>
    have hnodup : ((items ++ [i]).map Item.option?).Nodup ↔
        i.option? ∉ items.map Item.option? ∧ (items.map Item.option?).Nodup := by
      rw [List.map_append, List.map_singleton, ← List.concat_eq_append, List.nodup_concat]
    rw [faultsOf_concat, List.append_eq_nil_iff, ih, Option.toList_eq_nil_iff,
      Item.fault?_eq_none_iff, hnodup, List.forall_mem_append, List.forall_mem_singleton]
    tauto

/-! ## The walk -/

/-- Where binding stands behind some items: which options have occurred, which faults there have
been, and, if there have been none, which values the options have. -/
structure Standing (before : List Item) (s : BindingState) : Prop where
  seen : ∀ option, option ∈ s.seen ↔ some option ∈ before.map Item.option?
  faults : s.faults.reverse = faultsOf before
  given : ∀ option body v, s.faults = [] → .named option.name body ∈ before →
    MarkerOption.valueOf option body = .ok v → s.options.get option = v
  absent : ∀ option, some option ∉ before.map Item.option? →
    s.options.get option = MarkerOptions.standard.get option

theorem standing_start : Standing [] .start where
  seen _ := by simp [BindingState.start]
  faults := rfl
  given _ _ _ _ h := nomatch h
  absent _ _ := rfl

/-- An item that gives a value to an option that has not occurred sets it. -/
theorem bindItem_of_valueOf {s : BindingState} {option : MarkerOption} {body : ItemBody}
    {v : option.Value} (hnew : option ∉ s.seen) (hv : option.valueOf body = .ok v) :
    s.bindItem (.named option.name body) =
      { s with seen := option :: s.seen, options := s.options.put option v } := by
  have hseen : s.seen.contains option = false := by
    rw [List.contains_eq_mem, decide_eq_false_iff_not]
    exact hnew
  rw [BindingState.bindItem, MarkerOption.ofName?_name]
  dsimp only
  rw [hseen, if_neg Bool.false_ne_true, MarkerOptions.set_eq, hv]
  rfl

/-- An item with nothing wrong sets its option. -/
theorem bindItem_of_gives {before : List Item} {s : BindingState} (h : Standing before s)
    {option : MarkerOption} {body : ItemBody} {v : option.Value}
    (hnew : some option ∉ before.map Item.option?) (hv : option.valueOf body = .ok v) :
    s.bindItem (.named option.name body) =
      { s with seen := option :: s.seen, options := s.options.put option v } :=
  bindItem_of_valueOf (mt (h.seen option).mp hnew) hv

/-- An item with something wrong adds a fault, and keeps the options as they are. -/
theorem bindItem_of_fault {before : List Item} {s : BindingState} (h : Standing before s)
    {i : Item} {f : ArgumentFault} (hf : i.fault? before = some f) :
    (s.bindItem i).faults = f :: s.faults ∧ (s.bindItem i).options = s.options ∧
      ∀ option, option ∈ (s.bindItem i).seen ↔ option ∈ s.seen ∨ i.option? = some option := by
  cases i with
  | literal l =>
    cases hf
    exact ⟨rfl, rfl, fun _ => by simp [BindingState.bindItem, BindingState.refuse, Item.option?]⟩
  | named name body =>
    rw [Item.fault?] at hf
    rw [BindingState.bindItem, Item.option?]
    cases hname : MarkerOption.ofName? name with
    | none =>
      rw [hname] at hf
      cases hf
      exact ⟨rfl, rfl, fun _ => by simp [BindingState.refuse]⟩
    | some option =>
      rw [hname] at hf
      dsimp only at hf ⊢
      by_cases hseen : some option ∈ before.map Item.option?
      · -- A repeated option is refused before its value is looked at.
        rw [if_pos hseen] at hf
        cases hf
        have hmem : option ∈ s.seen := (h.seen option).mpr hseen
        rw [List.contains_eq_mem, if_pos (decide_eq_true hmem)]
        refine ⟨rfl, rfl, fun other => ⟨Or.inl, ?_⟩⟩
        rintro (hother | hother)
        · exact hother
        · exact Option.some.inj hother ▸ hmem
      · -- A new option counts as seen even if its value is wrong.
        have hmem : option ∉ s.seen := fun hmem => hseen ((h.seen option).mp hmem)
        rw [if_neg hseen] at hf
        rw [List.contains_eq_mem, if_neg (by simpa using hmem), MarkerOptions.set_eq]
        cases hvalue : option.valueOf body with
        | ok v =>
          rw [hvalue] at hf
          cases hf
        | error g =>
          rw [hvalue] at hf
          cases hf
          refine ⟨rfl, rfl, fun other => ?_⟩
          show other ∈ option :: s.seen ↔ _
          rw [List.mem_cons, Option.some.injEq, or_comm, eq_comm]

theorem Standing.step_of_fault {before : List Item} {s : BindingState} (h : Standing before s)
    {i : Item} {f : ArgumentFault} (hf : i.fault? before = some f) :
    Standing (before ++ [i]) (s.bindItem i) := by
  obtain ⟨hfaults, hoptions, hseen⟩ := bindItem_of_fault h hf
  constructor
  case seen =>
    intro option
    rw [hseen, h.seen, List.map_append, List.mem_append, List.map_singleton,
      List.mem_singleton, eq_comm]
  case faults =>
    rw [hfaults, List.reverse_cons, h.faults, faultsOf_concat, hf]
    rfl
  case given =>
    -- Once there is a fault, nothing is said of the options that are given.
    intro option body v hnone
    rw [hfaults] at hnone
    cases hnone
  case absent =>
    intro option habsent
    rw [List.map_append, List.mem_append, not_or] at habsent
    rw [hoptions]
    exact h.absent option habsent.1

theorem Standing.step_of_gives {before : List Item} {s : BindingState} (h : Standing before s)
    {i : Item} (hf : i.fault? before = none) : Standing (before ++ [i]) (s.bindItem i) := by
  obtain ⟨⟨option, body, v, rfl, hv⟩, hnew⟩ := Item.fault?_eq_none_iff.mp hf
  rw [Item.option?, MarkerOption.ofName?_name] at hnew
  rw [bindItem_of_gives h hnew hv]
  constructor
  case seen =>
    intro other
    simp only [List.mem_cons, h.seen, List.map_append, List.mem_append, List.map_singleton,
      Item.option?, MarkerOption.ofName?_name, List.not_mem_nil, or_false, Option.some.injEq]
    exact or_comm
  case faults => rw [h.faults, faultsOf_concat, hf, Option.toList_none, List.append_nil]
  case given =>
    intro other body' v' hnone hmem hv'
    rw [List.mem_append, List.mem_singleton, Item.named.injEq] at hmem
    rcases hmem with hmem | ⟨hname, rfl⟩
    · -- The option has not occurred, so what an earlier item has given stays.
      have hne : other ≠ option := by
        rintro rfl
        exact hnew (Item.mem_map_option?_iff.mpr ⟨body', hmem⟩)
      exact (s.options.get_put_of_ne v hne).trans (h.given other body' v' hnone hmem hv')
    · obtain rfl := MarkerOption.name_injective hname
      rw [hv] at hv'
      exact (s.options.get_put other v).trans (Except.ok.inj hv')
  case absent =>
    intro other habsent
    rw [List.map_append, List.mem_append, not_or, List.map_singleton, List.mem_singleton,
      Item.option?, MarkerOption.ofName?_name, Option.some.injEq] at habsent
    exact (s.options.get_put_of_ne v habsent.2).trans (h.absent other habsent.1)

/-- **An item keeps the invariant**, whether or not it offends. -/
theorem Standing.step {before : List Item} {s : BindingState} (h : Standing before s) (i : Item) :
    Standing (before ++ [i]) (s.bindItem i) := by
  cases hf : i.fault? before with
  | some f => exact h.step_of_fault hf
  | none => exact h.step_of_gives hf

/-- The invariant holds behind every list. -/
theorem standing_bound (items : List Item) :
    Standing items (items.foldl BindingState.bindItem .start) := by
  induction items using List.reverseRecOn with
  | nil => exact standing_start
  | append_singleton items i ih =>
    rw [List.foldl_append]
    exact ih.step i

/-! ## The result -/

/-- The options have the values that items give, and are otherwise as by default. -/
structure SetBy (items : List Item) (o : MarkerOptions) : Prop where
  given : ∀ option body, .named option.name body ∈ items →
    MarkerOption.valueOf option body = .ok (o.get option)
  absent : ∀ option : MarkerOption, (∀ body, .named option.name body ∉ items) →
    o.get option = MarkerOptions.standard.get option

/-- Only one choice of options is set by a list. -/
theorem SetBy.unique {items : List Item} {o o' : MarkerOptions} (h : SetBy items o)
    (h' : SetBy items o') : o = o' := by
  refine MarkerOptions.ext_get fun option => ?_
  by_cases hnamed : ∃ body, .named option.name body ∈ items
  · obtain ⟨body, hbody⟩ := hnamed
    exact Except.ok.inj ((h.given option body hbody).symm.trans (h'.given option body hbody))
  · rw [not_exists] at hnamed
    rw [h.absent option hnamed, h'.absent option hnamed]

/-- What the items set does not depend on their order. -/
theorem SetBy.perm {items items' : List Item} {o : MarkerOptions} (h : SetBy items o)
    (hperm : items.Perm items') : SetBy items' o where
  given option body hbody := h.given option body (hperm.mem_iff.mpr hbody)
  absent option hnone := h.absent option fun body hbody => hnone body (hperm.mem_iff.mp hbody)

/-- A list that does not bind has the faults of its items. -/
theorem faults_of_bindItems {items : List Item} {e : BindingError} (h : bindItems items = .error e) :
    e.faults = faultsOf items := by
  rw [bindItems, BindingState.result, (standing_bound items).faults] at h
  split at h
  · cases h
  · rename_i hfaults
    rw [← Except.error.inj h, hfaults]
    rfl

/-- **A list binds** exactly if nothing is wrong with any item, and then to what its items set. -/
theorem bindItems_eq_ok_iff {items : List Item} {o : MarkerOptions} :
    bindItems items = .ok o ↔ faultsOf items = [] ∧ SetBy items o := by
  have hstanding := standing_bound items
  have hset : faultsOf items = [] →
      SetBy items (items.foldl BindingState.bindItem .start).options := by
    intro hnone
    have hfaults : (items.foldl BindingState.bindItem .start).faults = [] :=
      List.reverse_eq_nil_iff.mp (hstanding.faults.trans hnone)
    refine ⟨fun option body hbody => ?_, fun option habsent => hstanding.absent option ?_⟩
    · obtain ⟨option', body', v, heq, hv⟩ := ((faultsOf_eq_nil_iff items).mp hnone).1 _ hbody
      rw [Item.named.injEq] at heq
      obtain ⟨hname, rfl⟩ := heq
      obtain rfl := MarkerOption.name_injective hname
      rw [hstanding.given option body v hfaults hbody hv, hv]
    · rw [Item.mem_map_option?_iff, not_exists]
      exact habsent
  rw [bindItems, BindingState.result, hstanding.faults]
  cases hfaults : faultsOf items with
  | nil =>
    constructor
    · intro h
      exact ⟨rfl, Except.ok.inj h ▸ hset hfaults⟩
    · rintro ⟨-, h⟩
      exact congrArg Except.ok ((hset hfaults).unique h)
  | cons f fs => simp

/-- A list binds to something exactly if nothing is wrong with any item. -/
theorem bindItems_isOk_iff (items : List Item) :
    (∃ o, bindItems items = .ok o) ↔ faultsOf items = [] := by
  constructor
  · rintro ⟨o, ho⟩
    exact (bindItems_eq_ok_iff.mp ho).1
  · intro hnone
    cases hbind : bindItems items with
    | ok o => exact ⟨o, rfl⟩
    | error e =>
      have hfaults := faults_of_bindItems hbind
      rw [hnone] at hfaults
      cases hfaults

/-- The order of items does not matter to a list that binds. -/
theorem bindItems_perm {items items' : List Item} (hperm : items.Perm items') {o : MarkerOptions}
    (h : bindItems items = .ok o) : bindItems items' = .ok o := by
  rw [bindItems_eq_ok_iff, faultsOf_eq_nil_iff] at h ⊢
  obtain ⟨⟨hgives, hnodup⟩, hset⟩ := h
  refine ⟨⟨fun i hi => hgives i (hperm.mem_iff.mpr hi), ?_⟩, hset.perm hperm⟩
  exact ((hperm.map Item.option?).nodup_iff).mp hnodup

/-! ## Evaluated arguments -/

/-- The evaluated arguments that are not null. -/
def withoutNull (as : List NamedArgument) : List NamedArgument :=
  as.filter fun a => decide (a.value ≠ .null)

/-- Null stands for an argument that is left out. -/
theorem itemsOfNamed_withoutNull (as : List NamedArgument) :
    itemsOfNamed (withoutNull as) = itemsOfNamed as := by
  induction as with
  | nil => rfl
  | cons a as ih =>
    obtain ⟨name, value⟩ := a
    rw [withoutNull] at ih ⊢
    cases value with
    | null => exact ih
    | boolean b =>
      rw [List.filter_cons_of_pos (by simp), itemsOfNamed, ih, itemsOfNamed]
    | integer n =>
      rw [List.filter_cons_of_pos (by simp), itemsOfNamed, ih, itemsOfNamed]
    | string s =>
      rw [List.filter_cons_of_pos (by simp), itemsOfNamed, ih, itemsOfNamed]

/-- Evaluated arguments bind as they would without those that are null, as long as there are any. -/
theorem bindUsage_withoutNull (path text : String) {as bs : List NamedArgument} (has : as ≠ [])
    (hbs : bs ≠ []) (h : withoutNull as = withoutNull bs) :
    bindUsage ⟨path, as, text⟩ = bindUsage ⟨path, bs, text⟩ := by
  have hitems : itemsOfNamed as = itemsOfNamed bs := by
    rw [← itemsOfNamed_withoutNull as, h, itemsOfNamed_withoutNull]
  have hempty : as.isEmpty = bs.isEmpty := by
    rw [List.isEmpty_eq_false_iff.mpr has, List.isEmpty_eq_false_iff.mpr hbs]
  simp only [bindUsage, hempty, hitems]

/-! ## Item by item -/

/-- **Binding goes item by item.**  A list of items binds exactly if none offends behind those before
it; if one does, there is one fault for each that does, in order; if none does, the options are as
the items set them, in whatever order they come.  Among evaluated arguments those that are null do
not count, unless there are no others.  The value of an item is the one that its option takes. -/
theorem bindItems_by_item (items : List Item) :
    ((∃ o, bindItems items = .ok o) ↔ ∀ p ∈ placed items, ¬p.2.Offends p.1) ∧
      (∀ e, bindItems items = .error e →
        List.Forall₂ (fun p f => p.2.fault? p.1 = some f) (offending items) e.faults) ∧
      (∀ o, bindItems items = .ok o →
        SetBy items o ∧ ∀ items', items.Perm items' → bindItems items' = .ok o) ∧
      (∀ path text as bs, as ≠ [] → bs ≠ [] → withoutNull as = withoutNull bs →
        bindUsage ⟨path, as, text⟩ = bindUsage ⟨path, bs, text⟩) ∧
      ∀ (option : MarkerOption) body v, option.valueOf body = .ok v ↔ option.Takes body v := by
  refine ⟨?_, ?_, ?_, fun path text as bs => bindUsage_withoutNull path text,
    fun option body v => MarkerOption.valueOf_eq_ok_iff⟩
  · have hsound : faultsOf items = [] ↔ ∀ p ∈ placed items, ¬p.2.Offends p.1 := by
      simp only [faultsOf, List.filterMap_eq_nil_iff, Item.offends_iff, Option.not_isSome_iff_eq_none]
    rw [← hsound]
    exact bindItems_isOk_iff items
  · intro e he
    rw [faults_of_bindItems he]
    exact forall₂_offending items
  · intro o ho
    exact ⟨(bindItems_eq_ok_iff.mp ho).2, fun _ hperm => bindItems_perm hperm ho⟩

/-- Five items, all but the first of which offend: one has no name, one a name that is no option's,
one no value, and the last is the second for its option. -/
def muddled : List Item :=
  [.named Engine.instanceWriterOption .word, .literal .byte, .named "Indent" .word,
    .named Engine.settingsOption .word,
    .named Engine.settingsOption (.value (.literal (.string "Options")))]

/-- The faults of such a list, and the options of what is left of it if the others are taken out. -/
theorem bindItems_by_item_muddled :
    bindItems muddled = .error ⟨.positional,
        [.unknown "Indent", .value .settings (.form "word"), .duplicate .settings]⟩ ∧
      (offending muddled).length = 4 ∧
      bindItems [muddled[0], muddled[4]] = .ok ⟨some "Options", true⟩ ∧
      bindItems [muddled[4], muddled[0]] = .ok ⟨some "Options", true⟩ ∧
      bindUsage ⟨"", [⟨"Indent", .null⟩, ⟨Engine.settingsOption, .string "Options"⟩], ""⟩ =
        bindUsage ⟨"", [⟨Engine.settingsOption, .string "Options"⟩], ""⟩ := by
  have hbad : bindItems muddled = .error ⟨.positional,
      [.unknown "Indent", .value .settings (.form "word"), .duplicate .settings]⟩ := rfl
  have hgood : bindItems [muddled[0], muddled[4]] = .ok ⟨some "Options", true⟩ := rfl
  refine ⟨hbad, ?_, hgood, ?_, ?_⟩
  · exact ((bindItems_by_item muddled).2.1 _ hbad).length_eq
  · exact ((bindItems_by_item _).2.2.1 _ hgood).2 _ (.swap ..)
  · exact (bindItems_by_item muddled).2.2.2.1 _ _ _ _ (by simp) (by simp) rfl

end DataContract.Marker
