import DataContract.Document.Decoder
import Mathlib.Data.List.Basic

/-!
# Decoding what has been written

A decoder *inverts* a way of writing if it takes every value back from what is written for it, in
whatever form the document is at hand.  The decoders for strings, lists, choices and the like invert
the obvious ways of writing.

A record is entered one entry after the other, and every entry asks whether its name has occurred
before.  When the names are known to be distinct that question can be left out: `Record.put` enters
an entry without asking, and `Record.ofEntries_of_put` says that nothing else is needed but that
everything required is there.
-/

namespace DataContract.Document

namespace Decoder

variable {α β : Type}

/-- Whether a decoder takes every value back from what is written for it. -/
def Inverts (d : Decoder α) (write : α → Value) : Prop := ∀ form a, d form (write a) = .ok a

theorem inverts_text : text.Inverts .string := fun _ _ => rfl

/-- A list is taken back item by item. -/
theorem Inverts.listOf {d : Decoder α} {write : α → Value} (hd : d.Inverts write) :
    (Decoder.listOf d).Inverts fun as => .array (as.map write) := by
  intro form as
  have hitems : (as.map write).mapM (d form) = .ok as := by
    induction as with
    | nil => rfl
    | cons a as ih =>
      rw [List.map_cons, List.mapM_cons, hd, ih]
      rfl
  rw [Decoder.listOf, hitems]
  rfl

theorem inverts_texts : (Decoder.listOf text).Inverts Value.texts := inverts_text.listOf

/-- A text that may be missing is taken back. -/
theorem inverts_optional_text : (Decoder.optional text).Inverts Value.optionalText := by
  rintro form (_ | s) <;> rfl

/-- A choice is taken back by its name, if its name is that of no other before it. -/
theorem inverts_choice {options : List (String × α)} {name : α → String}
    (hname : ∀ a, options.lookup (name a) = some a) :
    (choice options).Inverts fun a => .string (name a) := by
  intro form a
  rw [choice.eq_1, pick, hname]

end Decoder

namespace Record

variable {α β : Type} {r : Record α} {form : Form}

/-- Enters an entry, whether or not its name has occurred before. -/
def put (r : Record α) (form : Form) (a : α) (e : String × Value) : Except Mismatch α :=
  match r.field? e.1 with
  | some field => field.put form e.2 a
  | none =>
    match r.stray with
    | .refuse => .error (.unknownField e.1 r.names)
    | .ignore => .ok a
    | .keep put => put e.1 e.2 a

/-- Enters entries one after the other, whether or not a name occurs twice. -/
def puts (r : Record α) (form : Form) (entries : List (String × Value)) (a : α) :
    Except Mismatch α :=
  entries.foldlM (r.put form) a

@[simp] theorem puts_nil (a : α) : r.puts form [] a = .ok a := rfl

theorem puts_cons {a b : α} {e : String × Value} (h : r.put form a e = .ok b)
    (entries : List (String × Value)) :
    r.puts form (e :: entries) a = r.puts form entries b := by
  rw [puts, List.foldlM_cons, h]
  rfl

/-- A field is entered with the value that it was written for. -/
theorem put_field {name : String} {d : Decoder β} {set : β → α → α} {write : β → Value}
    (hfield : (r.field? name).map Field.put = some fun form v a => (set · a) <$> d form v)
    (hd : d.Inverts write) (b : β) (a : α) : r.put form a (name, write b) = .ok (set b a) := by
  obtain ⟨field, hfind, hput⟩ := Option.map_eq_some_iff.mp hfield
  rw [put, hfind]
  show field.put form (write b) a = _
  rw [hput]
  show (set · a) <$> d form (write b) = _
  rw [hd]
  rfl

/-- An entry whose name has not occurred before is entered without a question. -/
theorem enter_cons {e : String × Value} {seen : List String} (hseen : e.1 ∉ seen) {a b : α}
    (hput : r.put form a e = .ok b) (entries : List (String × Value)) :
    r.enter form (e :: entries) seen a =
      r.enter form entries (if (r.field? e.1).isSome then e.1 :: seen else seen) b := by
  obtain ⟨name, v⟩ := e
  rw [put] at hput
  rw [enter]
  dsimp only at hput ⊢
  cases hfield : r.field? name with
  | none =>
    rw [hfield] at hput
    dsimp only at hput ⊢
    cases hstray : r.stray with
    | refuse =>
      rw [hstray] at hput
      cases hput
    | ignore =>
      rw [hstray] at hput
      rw [Except.ok.inj hput]
      rfl
    | keep put =>
      rw [hstray] at hput
      dsimp only at hput ⊢
      rw [hput]
      rfl
  | some field =>
    rw [hfield] at hput
    dsimp only at hput ⊢
    rw [if_neg (by simpa using hseen), hput]
    rfl

/-- Entries with distinct names are entered without a question. -/
theorem enter_of_puts {entries : List (String × Value)} {seen : List String} {a b : α}
    (hnodup : (entries.map (·.1)).Nodup) (hseen : ∀ name ∈ entries.map (·.1), name ∉ seen)
    (hputs : r.puts form entries a = .ok b) :
    ∃ names, r.enter form entries seen a = .ok (b, names) ∧ (∀ name ∈ seen, name ∈ names) ∧
      ∀ name ∈ entries.map (·.1), (r.field? name).isSome → name ∈ names := by
  -- Every entry may add its name to those seen, so the statement is about all of these.
  induction entries generalizing seen a with
  | nil =>
    rw [puts_nil] at hputs
    rw [enter, Except.ok.inj hputs]
    exact ⟨seen, rfl, fun _ h => h, fun _ h => nomatch h⟩
  | cons e entries ih =>
    rw [List.map_cons, List.nodup_cons] at hnodup
    cases hput : r.put form a e with
    | error error =>
      rw [puts, List.foldlM_cons, hput] at hputs
      cases hputs
    | ok c =>
      rw [puts_cons hput] at hputs
      have hnext : ∀ name ∈ entries.map (·.1),
          name ∉ if (r.field? e.1).isSome then e.1 :: seen else seen := by
        intro name hname
        have hold := hseen name (List.mem_cons_of_mem _ hname)
        split
        · rw [List.mem_cons, not_or]
          exact ⟨fun heq => hnodup.1 (heq ▸ hname), hold⟩
        · exact hold
      obtain ⟨names, henter, hkept, hnames⟩ := ih hnodup.2 hnext hputs
      rw [enter_cons (hseen e.1 (List.mem_cons_self ..)) hput]
      refine ⟨names, henter, fun name hname => hkept name ?_, fun name hname hfield => ?_⟩
      · split
        · exact List.mem_cons_of_mem _ hname
        · exact hname
      · rcases List.mem_cons.mp hname with rfl | hname
        · exact hkept e.1 (by rw [if_pos hfield]; exact List.mem_cons_self ..)
        · exact hnames name hname hfield

/-- **A table with distinct names is decoded by entering its entries**, if everything required is
there. -/
theorem ofEntries_of_puts {entries : List (String × Value)} {a : α}
    (hnodup : (entries.map (·.1)).Nodup) (hputs : r.puts form entries r.blank = .ok a)
    (hrequired : ∀ field ∈ r.fields, field.required = true → field.name ∈ entries.map (·.1)) :
    r.ofEntries form entries none = .ok a := by
  obtain ⟨names, henter, -, hnames⟩ :=
    enter_of_puts hnodup (fun _ _ => List.not_mem_nil) hputs
  have hmissing : r.fields.find? (fun field => field.required && !names.contains field.name) =
      none := by
    rw [List.find?_eq_none]
    intro field hfield hbad
    rw [Bool.and_eq_true, Bool.not_eq_true'] at hbad
    have hfound : (r.field? field.name).isSome := by
      rw [field?, List.find?_isSome]
      exact ⟨field, hfield, beq_self_eq_true _⟩
    have hmem := hnames field.name (hrequired field hfield hbad.1) hfound
    rw [List.contains_iff_mem.mpr hmem] at hbad
    cases hbad.2
  rw [ofEntries, henter]
  dsimp only [bind, Except.bind]
  rw [hmissing]
  rfl

end Record

end DataContract.Document
