import DataContract.Declaration.Decode
import DataContract.Declaration.Encode
import DataContract.Proofs.Text.Words

/-!
# Keywords

A text names modifiers by their keywords, and a list names them by their identifiers in lower case.
The tables of both are written separately, and so are those that write a keyword and that read it.

* `Modifier.ofKeyword?_eq_some_iff` --- every modifier is read from its keyword, and from no other
  word.
* `Modifier.name_eq_keyword`, `Modifier.ofName?_eq_ofKeyword?` --- the names are the keywords.
* `Modifiers.ofWords_eq_ok_iff`, `Modifiers.ofWords_eq_error_iff` --- words are read as modifiers if they
  are the keywords of these, and otherwise the first of them that is no keyword is the error.
* `Modifiers.parse_text` --- a text that is written for modifiers is read as these.  Keywords have no
  white space in them, so they are the words of that text.
-/

namespace DataContract.Declaration

open DataContract.Document

variable {words : List String} {word : String} {ms : Modifiers}

/-! ## Keywords -/

/-- A word is the keyword of some modifier. -/
def IsKeyword (word : String) : Prop := ∃ m : Modifier, m.keyword = word

namespace Modifier

theorem ofKeyword?_keyword (m : Modifier) : ofKeyword? m.keyword = some m := by
  cases m <;> rfl

/-- **A modifier is read from its keyword** and from no other word. -/
theorem ofKeyword?_eq_some_iff {m : Modifier} : ofKeyword? word = some m ↔ m.keyword = word := by
  constructor
  · intro h
    unfold ofKeyword? at h
    split at h <;> cases h <;> rfl
  · rintro rfl
    exact ofKeyword?_keyword m

theorem ofKeyword?_eq_none_iff : ofKeyword? word = none ↔ ¬IsKeyword word := by
  simp only [IsKeyword, ← ofKeyword?_eq_some_iff, Option.eq_none_iff_forall_ne_some, not_exists,
    ne_eq]

/-- **The name of a modifier is its keyword.** -/
theorem name_eq_keyword (m : Modifier) : m.name = m.keyword := by
  cases m <;> rfl

theorem ofName?_eq_some_iff {m : Modifier} : ofName? word = some m ↔ m.name = word := by
  constructor
  · intro h
    have hword := List.find?_some (p := fun m : Modifier => m.name == word) h
    exact beq_iff_eq.mp hword
  · rintro rfl
    cases m <;> rfl

/-- Names are read as keywords are. -/
theorem ofName?_eq_ofKeyword? (word : String) : ofName? word = ofKeyword? word := by
  refine Option.ext fun m => ?_
  rw [ofName?_eq_some_iff, ofKeyword?_eq_some_iff, name_eq_keyword]

/-- There is no white space in a keyword. -/
theorem unbroken_keyword (m : Modifier) : Text.Unbroken m.keyword.toList := by
  cases m <;> decide

end Modifier

namespace Modifiers

/-! ## Words -/

theorem ofWords_cons_of_not_isKeyword (h : ¬IsKeyword word) (words : List String) :
    ofWords (word :: words) = .error word := by
  rw [ofWords, Modifier.ofKeyword?_eq_none_iff.mpr h]

/-- Keywords in front are read as their modifiers. -/
theorem ofWords_map_append (ms : Modifiers) (words : List String) :
    ofWords (ms.map Modifier.keyword ++ words) = (ofWords words).map (ms ++ ·) := by
  induction ms with
  | nil =>
    rw [List.map_nil, List.nil_append]
    cases ofWords words <;> rfl
  | cons m ms ih =>
    rw [List.map_cons, List.cons_append, ofWords, Modifier.ofKeyword?_keyword]
    dsimp only
    rw [ih]
    cases ofWords words <;> rfl

/-- All words are keywords, or there is a first one that is not. -/
theorem keywords_or_first (words : List String) :
    (∃ ms : Modifiers, words = ms.map Modifier.keyword) ∨
      ∃ (ms : Modifiers) (word : String) (rest : List String),
        words = ms.map Modifier.keyword ++ word :: rest ∧ ¬IsKeyword word := by
  induction words with
  | nil => exact Or.inl ⟨[], rfl⟩
  | cons word words ih =>
    by_cases hword : IsKeyword word
    · obtain ⟨m, rfl⟩ := hword
      rcases ih with ⟨ms, rfl⟩ | ⟨ms, word, rest, rfl, hword⟩
      · exact Or.inl ⟨m :: ms, rfl⟩
      · exact Or.inr ⟨m :: ms, word, rest, rfl, hword⟩
    · exact Or.inr ⟨[], word, words, rfl, hword⟩

theorem ofWords_map (ms : Modifiers) : ofWords (ms.map Modifier.keyword) = .ok ms := by
  rw [← List.append_nil (ms.map _), ofWords_map_append, ofWords]
  exact congrArg Except.ok (List.append_nil ms)

theorem ofWords_of_first (ms : Modifiers) (h : ¬IsKeyword word) (rest : List String) :
    ofWords (ms.map Modifier.keyword ++ word :: rest) = .error word := by
  rw [ofWords_map_append, ofWords_cons_of_not_isKeyword h]
  rfl

/-- **Words are read as modifiers** if they are the keywords of these. -/
theorem ofWords_eq_ok_iff : ofWords words = .ok ms ↔ words = ms.map Modifier.keyword := by
  constructor
  · intro h
    rcases keywords_or_first words with ⟨ms', rfl⟩ | ⟨ms', word, rest, rfl, hword⟩
    · rw [ofWords_map] at h
      rw [Except.ok.inj h]
    · rw [ofWords_of_first ms' hword] at h
      cases h
  · rintro rfl
    exact ofWords_map ms

/-- **The error is the first word that is no keyword.** -/
theorem ofWords_eq_error_iff : ofWords words = .error word ↔
    ∃ before rest, words = before ++ word :: rest ∧ (∀ w ∈ before, IsKeyword w) ∧
      ¬IsKeyword word := by
  constructor
  · intro h
    rcases keywords_or_first words with ⟨ms, rfl⟩ | ⟨ms, word', rest, rfl, hword⟩
    · rw [ofWords_map] at h
      cases h
    · rw [ofWords_of_first ms hword] at h
      obtain rfl := Except.error.inj h
      refine ⟨_, rest, rfl, fun w hw => ?_, hword⟩
      obtain ⟨m, -, rfl⟩ := List.mem_map.mp hw
      exact ⟨m, rfl⟩
  · rintro ⟨before, rest, rfl, hbefore, hword⟩
    rcases keywords_or_first before with ⟨ms, rfl⟩ | ⟨ms, other, more, rfl, hother⟩
    · exact ofWords_of_first ms hword rest
    · exact absurd (hbefore other (by simp)) hother

/-! ## Texts -/

/-- **A text that is written for modifiers is read as these.** -/
theorem parse_text (ms : Modifiers) : parse (text ms) = .ok ms := by
  have hwords : Text.wordsOf (text ms) = ms.map Modifier.keyword := by
    refine Text.wordsOf_intercalate fun w hw => ?_
    obtain ⟨m, -, rfl⟩ := List.mem_map.mp hw
    exact m.unbroken_keyword
  rw [parse, hwords, ofWords_map]

/-- What is written for the modifiers of a text are its words, separated by single spaces. -/
theorem text_of_parse {s : String} (h : parse s = .ok ms) :
    text ms = String.intercalate " " (Text.wordsOf s) := by
  rw [text, ofWords_eq_ok_iff.mp h]

/-- A text has modifiers if all its words are keywords. -/
theorem parse_isOk_iff {s : String} :
    (∃ ms, parse s = .ok ms) ↔ ∀ w ∈ Text.wordsOf s, IsKeyword w := by
  constructor
  · rintro ⟨ms, h⟩ w hw
    rw [ofWords_eq_ok_iff.mp h] at hw
    obtain ⟨m, -, rfl⟩ := List.mem_map.mp hw
    exact ⟨m, rfl⟩
  · intro h
    rw [parse]
    rcases keywords_or_first (Text.wordsOf s) with ⟨ms, hms⟩ | ⟨ms, word, rest, hms, hword⟩
    · exact ⟨ms, ofWords_eq_ok_iff.mpr hms⟩
    · exact absurd (h word (by simp [hms])) hword

/-! ## Items -/

/-- **What is written for modifiers in a list are their keywords.** -/
theorem encode_eq (ms : Modifiers) : ms.encode = .texts (ms.map Modifier.keyword) := by
  rw [encode, funext Modifier.name_eq_keyword]

/-- The items of a list are modifiers if they are the keywords of these. -/
theorem mapM_ofItem?_eq_some_iff : (words.map Value.string).mapM Modifier.ofItem? = some ms ↔
    words = ms.map Modifier.keyword := by
  induction words generalizing ms with
  | nil => cases ms <;> simp
  | cons word words ih =>
    have hword : Modifier.ofItem? (.string word) = Modifier.ofKeyword? word :=
      Modifier.ofName?_eq_ofKeyword? word
    rw [List.map_cons, List.mapM_cons, hword]
    constructor
    · intro h
      obtain ⟨m, hm, h⟩ := Option.bind_eq_some_iff.mp h
      obtain ⟨ms', hms', h⟩ := Option.bind_eq_some_iff.mp h
      obtain rfl := Option.some.inj h
      rw [List.map_cons, Modifier.ofKeyword?_eq_some_iff.mp hm, ih.mp hms']
    · cases ms with
      | nil => exact fun h => nomatch h
      | cons m ms =>
        rw [List.map_cons]
        rintro ⟨⟩
        rw [Modifier.ofKeyword?_keyword, ih.mpr rfl]
        rfl

end Modifiers

end DataContract.Declaration
