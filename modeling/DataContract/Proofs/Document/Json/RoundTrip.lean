import DataContract.Proofs.Document.Json.Scalar

/-!
# Documents in JSON

A document is *plain* if it is made of what a text in JSON keeps: null, truth values, integers that
fit a word, strings, and lists and tables of plain documents.  Its height is the number of lists and
tables that stand inside one another.

* `readsBack_of_plain` --- a plain document is read back from what is written for it, up to
  whatever follows, as long as it is not nested too deeply.  The proof goes by the shape of the
  document; that the reader has enough fuel is counted along the text.
* `read_write` --- the text of a plain document is read as that document, and read to its end.
* `Plain.sound` --- a plain document has no flaw, so it may be set aside.
-/

namespace DataContract.Document

/-- A document that a text keeps, with at most `height` lists and tables inside one another. -/
inductive Value.Plain : Nat → Value → Prop
  | null {height : Nat} : Plain height .null
  | boolean {height : Nat} (b : Bool) : Plain height (.boolean b)
  | integer {height : Nat} {n : Int} (hn : Json.IsWord n) : Plain height (.integer n)
  | string {height : Nat} (s : String) : Plain height (.string s)
  | array {height : Nat} {items : List Value} (hitems : ∀ v ∈ items, Plain height v) :
    Plain (height + 1) (.array items)
  | object {height : Nat} {entries : List (String × Value)}
    (hentries : ∀ e ∈ entries, Plain height e.2) : Plain (height + 1) (.object entries)

namespace Json

/-! ## Where a document begins -/

theorem skipSpace_cons {c : Char} (hc : isSpace c = false) (cs : List Char) :
    skipSpace (c :: cs) = c :: cs :=
  List.dropWhile_cons_of_neg (by simp [hc])

/-- An integer begins with a sign or a digit. -/
theorem head_toString (n : Int) :
    ∃ d ds, (toString n).toList = d :: ds ∧ (d = '-' ∨ d.isDigit = true) := by
  cases n with
  | ofNat n =>
    obtain ⟨d, ds, hds⟩ := List.exists_cons_of_ne_nil (Nat.toDigits_ne_nil (b := 10) (n := n))
    have hdigit : d.isDigit = true := isDigit_of_mem_toDigits (n := n) (by simp [hds])
    exact ⟨d, ds, Nat.toList_repr.trans hds, Or.inr hdigit⟩
  | negSucc n => exact ⟨'-', (n + 1).repr.toList, String.toList_append, Or.inl rfl⟩

/-- A sign or a digit is none of the characters with which other documents begin. -/
theorem ne_of_numeric {d c : Char} (hd : d = '-' ∨ d.isDigit = true) (hc : c ≠ '-')
    (hdigit : c.isDigit = false) : d ≠ c := by
  rintro rfl
  rcases hd with hd | hd
  · exact hc hd
  · rw [hdigit] at hd
    cases hd

theorem isSpace_of_numeric {d : Char} (hd : d = '-' ∨ d.isDigit = true) : isSpace d = false := by
  have hne : ∀ c : Char, c ≠ '-' → c.isDigit = false → (d == c) = false := fun c hc hdigit =>
    beq_false_of_ne (ne_of_numeric hd hc hdigit)
  rw [isSpace, hne ' ' (by decide) rfl, hne '\n' (by decide) rfl, hne '\t' (by decide) rfl,
    hne '\r' (by decide) rfl]
  rfl

/-- A text that begins with a sign or a digit is read as a number. -/
theorem readValue_numeric {d : Char} (hd : d = '-' ∨ d.isDigit = true) (fuel depth : Nat)
    (cs : List Char) : readValue (fuel + 1) depth (d :: cs) = readNumber (d :: cs) := by
  rw [readValue, skipSpace_cons (isSpace_of_numeric hd)]
  split
  case h_7 => rfl
  all_goals
    rename_i heq
    exact absurd (List.cons.inj heq).1 (ne_of_numeric hd (by decide) rfl)

theorem writeValue_integer (n : Int) : writeValue (.integer n) = (toString n).toList := rfl

theorem writeValue_string (s : String) : writeValue (.string s) = writeText s := rfl

theorem writeValue_array (items : List Value) :
    writeValue (.array items) = '[' :: writeItems items ++ [']'] := rfl

theorem writeValue_object (entries : List (String × Value)) :
    writeValue (.object entries) = '\x7b' :: writeEntries entries ++ ['\x7d'] := rfl

/-- What is written for a plain document begins with a character that is no space and does not
close a list. -/
theorem head_writeValue {height : Nat} {v : Value} (hv : v.Plain height) :
    ∃ c cs, writeValue v = c :: cs ∧ isSpace c = false ∧ c ≠ ']' := by
  cases hv with
  | null => exact ⟨'n', _, rfl, rfl, by decide⟩
  | boolean b => cases b <;> exact ⟨_, _, rfl, rfl, by decide⟩
  | @integer _ n hn =>
    obtain ⟨d, ds, hds, hd⟩ := head_toString n
    exact ⟨d, ds, hds, isSpace_of_numeric hd, ne_of_numeric hd (by decide) rfl⟩
  | string s => exact ⟨'"', _, rfl, rfl, by decide⟩
  | array hitems => exact ⟨'[', _, rfl, rfl, by decide⟩
  | object hentries => exact ⟨'\x7b', _, rfl, rfl, by decide⟩

/-! ## Lists and tables -/

/-- Whether a document is read back from what is written for it, inside `depth` lists and tables. -/
def ReadsBack (depth : Nat) (v : Value) : Prop :=
  ∀ fuel rest, (writeValue v).length ≤ fuel → Follows rest →
    readValue fuel depth (writeValue v ++ rest) = (v, some rest)

theorem follows_comma (rest : List Char) : Follows (',' :: rest) := by
  rintro c ⟨⟩
  exact Or.inl rfl

theorem follows_bracket (rest : List Char) : Follows (']' :: rest) := by
  rintro c ⟨⟩
  exact Or.inr (Or.inl rfl)

theorem follows_brace (rest : List Char) : Follows ('\x7d' :: rest) := by
  rintro c ⟨⟩
  exact Or.inr (Or.inr rfl)

/-- An item before a closing bracket is the last one. -/
theorem readItems_last {fuel depth : Nat} {cs rest : List Char} {v : Value}
    (hv : readValue fuel depth cs = (v, some (']' :: rest))) :
    readItems (fuel + 1) depth cs = ([v], none, some rest) := by
  rw [readItems, hv]
  rfl

/-- Behind an item and a comma come the other items. -/
theorem readItems_more {fuel depth : Nat} {cs rest rest' : List Char} {v : Value}
    {items : List Value} (hv : readValue fuel depth cs = (v, some (',' :: rest)))
    (hmore : readItems fuel depth rest = (items, none, some rest')) :
    readItems (fuel + 1) depth cs = (v :: items, none, some rest') := by
  rw [readItems, hv]
  show (v :: (readItems fuel depth rest).1, (readItems fuel depth rest).2) = _
  rw [hmore]

/-- Items that are read back make a list that is. -/
theorem readItems_writeItems {depth : Nat} {v : Value} {items : List Value}
    (hitems : ∀ w ∈ v :: items, ReadsBack depth w) (fuel : Nat)
    (hfuel : (writeItems (v :: items)).length < fuel) (rest : List Char) :
    readItems fuel depth (writeItems (v :: items) ++ ']' :: rest) =
      (v :: items, none, some rest) := by
  -- One round of the reader is spent on each item, and a comma is written for it.
  induction items generalizing v fuel with
  | nil =>
    have hone : writeItems [v] = writeValue v := by rw [writeItems]
    rw [hone] at hfuel ⊢
    obtain ⟨fuel, rfl⟩ := Nat.exists_eq_add_one_of_ne_zero (Nat.ne_zero_of_lt hfuel)
    exact readItems_last (hitems v (List.mem_cons_self ..) _ _ (by omega) (follows_bracket rest))
  | cons w items ih =>
    have hcons : writeItems (v :: w :: items) = writeValue v ++ ',' :: writeItems (w :: items) := by
      rw [writeItems]
      exact fun h => nomatch h
    rw [hcons, List.length_append, List.length_cons] at hfuel
    obtain ⟨fuel, rfl⟩ := Nat.exists_eq_add_one_of_ne_zero (Nat.ne_zero_of_lt hfuel)
    have hmore := ih (fun u hu => hitems u (List.mem_cons_of_mem _ hu)) fuel (by omega)
    rw [hcons, List.append_assoc, List.cons_append]
    exact readItems_more (hitems v (List.mem_cons_self ..) _ _ (by omega) (follows_comma _)) hmore

theorem writeText_append (name : String) (cs : List Char) :
    writeText name ++ cs = '"' :: (name.toList.flatMap escapeChar ++ '"' :: cs) := by
  simp [writeText]

/-- An entry before a closing brace is the last one. -/
theorem readEntries_last {fuel depth : Nat} {cs rest : List Char} {v : Value} (name : String)
    (hv : readValue fuel depth cs = (v, some ('\x7d' :: rest))) :
    readEntries (fuel + 1) depth (writeText name ++ ':' :: cs) =
      ([(name, v)], none, some rest) := by
  rw [writeText_append, readEntries, skipSpace_cons rfl]
  simp [readText_escaped, skipSpace, isSpace, hv, addEntry]

/-- Behind an entry and a comma come the other entries. -/
theorem readEntries_more {fuel depth : Nat} {cs rest rest' : List Char} {v : Value} (name : String)
    {entries : List (String × Value)} (hv : readValue fuel depth cs = (v, some (',' :: rest)))
    (hmore : readEntries fuel depth rest = (entries, none, some rest')) :
    readEntries (fuel + 1) depth (writeText name ++ ':' :: cs) =
      ((name, v) :: entries, none, some rest') := by
  rw [writeText_append, readEntries, skipSpace_cons rfl]
  simp [readText_escaped, skipSpace, isSpace, hv, hmore, addEntry]

/-- Entries whose values are read back make a table that is. -/
theorem readEntries_writeEntries {depth : Nat} {e : String × Value} {entries : List (String × Value)}
    (hentries : ∀ x ∈ e :: entries, ReadsBack depth x.2) (fuel : Nat)
    (hfuel : (writeEntries (e :: entries)).length < fuel) (rest : List Char) :
    readEntries fuel depth (writeEntries (e :: entries) ++ '\x7d' :: rest) =
      (e :: entries, none, some rest) := by
  induction entries generalizing e fuel with
  | nil =>
    have hone : writeEntries [e] = writeText e.1 ++ ':' :: writeValue e.2 := by rw [writeEntries]
    rw [hone, List.length_append, List.length_cons] at hfuel
    obtain ⟨fuel, rfl⟩ := Nat.exists_eq_add_one_of_ne_zero (Nat.ne_zero_of_lt hfuel)
    rw [hone, List.append_assoc, List.cons_append]
    exact readEntries_last e.1 (hentries e (List.mem_cons_self ..) _ _ (by omega)
      (follows_brace rest))
  | cons w entries ih =>
    have hcons : writeEntries (e :: w :: entries) =
        writeText e.1 ++ ':' :: (writeValue e.2 ++ ',' :: writeEntries (w :: entries)) := by
      rw [writeEntries, List.append_assoc, List.cons_append]
      exact fun h => nomatch h
    simp only [hcons, List.length_append, List.length_cons] at hfuel
    obtain ⟨fuel, rfl⟩ := Nat.exists_eq_add_one_of_ne_zero (Nat.ne_zero_of_lt hfuel)
    have hmore := ih (fun u hu => hentries u (List.mem_cons_of_mem _ hu)) fuel (by omega)
    rw [hcons, List.append_assoc, List.cons_append, List.append_assoc, List.cons_append]
    exact readEntries_more e.1 (hentries e (List.mem_cons_self ..) _ _ (by omega)
      (follows_comma _)) hmore

/-! ## Documents -/

/-- What is written for items begins like the first of them. -/
theorem head_writeItems {height : Nat} {v : Value} (hv : v.Plain height) (items : List Value) :
    ∃ c cs, writeItems (v :: items) = c :: cs ∧ isSpace c = false ∧ c ≠ ']' := by
  obtain ⟨c, cs, hwrite, hc⟩ := head_writeValue hv
  cases items with
  | nil => exact ⟨c, cs, by rw [writeItems, hwrite], hc⟩
  | cons w items =>
    refine ⟨c, cs ++ ',' :: writeItems (w :: items), ?_, hc⟩
    rw [writeItems, hwrite, List.cons_append]
    exact fun h => nomatch h

/-- What is written for entries begins with the quote of the first name. -/
theorem head_writeEntries (e : String × Value) (entries : List (String × Value)) :
    ∃ cs, writeEntries (e :: entries) = '"' :: cs := by
  cases entries with
  | nil => exact ⟨_, by rw [writeEntries, writeText_append]⟩
  | cons w entries =>
    refine ⟨e.1.toList.flatMap escapeChar ++ '"' :: (':' :: writeValue e.2 ++
      ',' :: writeEntries (w :: entries)), ?_⟩
    rw [writeEntries, List.append_assoc, writeText_append]
    exact fun h => nomatch h

/-- Items that are read make a list. -/
theorem readValue_list {fuel depth : Nat} (hdepth : depth < depthLimit) {c : Char}
    (hc : isSpace c = false) (hne : c ≠ ']') {cs rest : List Char} {items : List Value}
    (hitems : readItems fuel (depth + 1) (c :: cs) = (items, none, some rest)) :
    readValue (fuel + 1) depth ('[' :: c :: cs) = (.array items, some rest) := by
  rw [readValue, skipSpace_cons rfl]
  simp [skipSpace_cons hc, hne, hitems, nested, hdepth]

/-- Entries that are read make a table. -/
theorem readValue_table {fuel depth : Nat} (hdepth : depth < depthLimit) {cs rest : List Char}
    {entries : List (String × Value)}
    (hentries : readEntries fuel (depth + 1) ('"' :: cs) = (entries, none, some rest)) :
    readValue (fuel + 1) depth ('\x7b' :: '"' :: cs) = (.object entries, some rest) := by
  rw [readValue, skipSpace_cons rfl]
  simp [skipSpace_cons, isSpace, hentries, nested, hdepth]

/-- **A plain document is read back**, unless it is nested too deeply. -/
theorem readsBack_of_plain {height : Nat} {v : Value} (hv : v.Plain height) {depth : Nat}
    (hdepth : depth + height ≤ depthLimit) : ReadsBack depth v := by
  induction hv generalizing depth with
  | null =>
    rintro (_ | fuel) rest hfuel -
    · exact absurd hfuel (by decide)
    · rfl
  | boolean b =>
    rintro (_ | fuel) rest hfuel -
    · cases b <;> exact absurd hfuel (by decide)
    · cases b <;> rfl
  | @integer _ n hn =>
    intro fuel rest hfuel hrest
    obtain ⟨d, ds, hds, hd⟩ := head_toString n
    have hread := readNumber_toString hn hrest
    rw [writeValue_integer] at hfuel ⊢
    rw [hds] at hfuel hread ⊢
    obtain ⟨fuel, rfl⟩ := Nat.exists_eq_add_one_of_ne_zero (Nat.ne_zero_of_lt hfuel)
    exact (readValue_numeric hd fuel depth _).trans hread
  | string s =>
    rintro (_ | fuel) rest hfuel -
    · exact absurd hfuel (by simp [writeValue_string, writeText])
    · rw [writeValue_string, writeText_append, readValue, skipSpace_cons rfl]
      simp [readText_escaped]
  | @array height items hitems ih =>
    intro fuel rest hfuel hrest
    have hlt : depth < depthLimit := by omega
    rw [writeValue_array, List.length_append, List.length_cons, List.length_singleton] at hfuel
    rw [writeValue_array, List.append_assoc, List.cons_append, List.singleton_append]
    obtain ⟨fuel, rfl⟩ := Nat.exists_eq_add_one_of_ne_zero (Nat.ne_zero_of_lt hfuel)
    -- An empty list is closed at once, and any other is read item by item.
    cases items with
    | nil =>
      rw [writeItems, readValue, skipSpace_cons rfl]
      simp [nested, hlt, skipSpace, isSpace]
    | cons v items =>
      obtain ⟨c, cs, hwrite, hc, hne⟩ := head_writeItems (hitems v (List.mem_cons_self ..)) items
      have hback : ∀ w ∈ v :: items, ReadsBack (depth + 1) w := fun w hw => ih w hw (by omega)
      have hread := readItems_writeItems hback fuel (by omega) rest
      rw [hwrite] at hread ⊢
      exact readValue_list hlt hc hne hread
  | @object height entries hentries ih =>
    intro fuel rest hfuel hrest
    have hlt : depth < depthLimit := by omega
    rw [writeValue_object, List.length_append, List.length_cons, List.length_singleton] at hfuel
    rw [writeValue_object, List.append_assoc, List.cons_append, List.singleton_append]
    obtain ⟨fuel, rfl⟩ := Nat.exists_eq_add_one_of_ne_zero (Nat.ne_zero_of_lt hfuel)
    cases entries with
    | nil =>
      rw [writeEntries, readValue, skipSpace_cons rfl]
      simp [nested, hlt, skipSpace, isSpace]
    | cons e entries =>
      obtain ⟨cs, hwrite⟩ := head_writeEntries e entries
      have hback : ∀ x ∈ e :: entries, ReadsBack (depth + 1) x.2 := fun x hx => ih x hx (by omega)
      have hread := readEntries_writeEntries hback fuel (by omega) rest
      rw [hwrite] at hread ⊢
      exact readValue_table hlt hread

/-- **The text of a plain document is read as that document**, and read to its end. -/
theorem read_write {height : Nat} (hheight : height ≤ depthLimit) {v : Value}
    (hv : v.Plain height) : read (write v) = ⟨v, true⟩ := by
  have hback : ReadsBack 0 v := readsBack_of_plain hv (by omega)
  have hread := hback (2 * (writeValue v).length + 1) [] (by omega) follows_nil
  rw [List.append_nil] at hread
  rw [read, write, String.toList_ofList, hread]
  rfl

end Json

namespace Value

theorem soundItems_eq_all (items : List Value) : soundItems items = items.all sound := by
  induction items with
  | nil => rfl
  | cons v items ih => rw [soundItems, ih, List.all_cons]

theorem soundEntries_eq_all (entries : List (String × Value)) :
    soundEntries entries = entries.all fun e => e.2.sound := by
  induction entries with
  | nil => rfl
  | cons e entries ih => rw [soundEntries, ih, List.all_cons]

namespace Plain

/-- A plain document has no flaw. -/
theorem sound {height : Nat} {v : Value} (hv : v.Plain height) : v.sound = true := by
  induction hv with
  | null => rfl
  | boolean b => rfl
  | integer hn => rfl
  | string s => rfl
  | array hitems ih =>
    rw [Value.sound, soundItems_eq_all, List.all_eq_true.mpr ih]
    rfl
  | object hentries ih =>
    rw [Value.sound, soundEntries_eq_all, List.all_eq_true.mpr ih]
    rfl

/-- A plain document may be set aside. -/
theorem retain {height : Nat} {v : Value} (hv : v.Plain height) : Decoder.retain v = .ok v := by
  rw [Decoder.retain, if_pos hv.sound]

/-- The values in a plain table are plain. -/
theorem forall_mem {height : Nat} {entries : List (String × Value)}
    (h : (Value.object entries).Plain (height + 1)) : ∀ e ∈ entries, e.2.Plain height := by
  cases h with
  | object hentries => exact hentries

/-- A document of some height may be where a higher one is allowed. -/
theorem mono {height height' : Nat} {v : Value} (hv : v.Plain height) (hle : height ≤ height') :
    v.Plain height' := by
  induction hv generalizing height' with
  | null => exact null
  | boolean b => exact boolean b
  | integer hn => exact integer hn
  | string s => exact string s
  | array hitems ih =>
    obtain ⟨height', rfl⟩ := Nat.exists_eq_add_one_of_ne_zero (Nat.ne_zero_of_lt hle)
    exact array fun v hv => ih v hv (by omega)
  | object hentries ih =>
    obtain ⟨height', rfl⟩ := Nat.exists_eq_add_one_of_ne_zero (Nat.ne_zero_of_lt hle)
    exact object fun e he => ih e he (by omega)

end Plain

end Value

end DataContract.Document
