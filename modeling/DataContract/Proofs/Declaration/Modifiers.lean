import DataContract.Proofs.Declaration.Keywords
import DataContract.Proofs.Declaration.RoundTrip

/-!
# The two spellings of modifiers

Modifiers are spelled as a list of names, or as a text of keywords that are separated by white
space.  A document may hold either (`decode_texts_eq_ok_iff`, `decode_string`).  Two tables read
them, one the names and the other the keywords, and it makes no difference which (`two_spellings`).
-/

namespace DataContract.Declaration.Modifiers

open DataContract.Document

variable {words : List String} {ms : Modifiers}

/-- A text is decoded as the modifiers that it is read as. -/
theorem decode_string {form : Form} {s : String} :
    decode form (.string s) = (parse s).mapError .unknownModifier := rfl

/-- A list of words is decoded if they are the keywords of modifiers, for these are their names. -/
theorem decode_texts_eq_ok_iff {form : Form} :
    decode form (.texts words) = .ok ms ↔ words = ms.map Modifier.keyword := by
  rw [← mapM_ofItem?_eq_some_iff, decode, (plain_texts words).retain, Value.texts]
  dsimp only [bind, Except.bind]
  cases (words.map Value.string).mapM Modifier.ofItem? <;> simp

/-- The modifiers in a JSON text. -/
def ofJson (s : String) : Except Mismatch Modifiers := (Json.read s).decode decode

theorem ofJson_write {height : Nat} {v : Value} (hv : v.Plain height)
    (hheight : height ≤ Json.depthLimit) (h : decode .stream v = .ok ms) :
    ofJson (Json.write v) = .ok ms := by
  rw [ofJson, Json.read_write hheight hv, Json.Reading.decode, h]
  rfl

/-- **A text and a list are two spellings of the same modifiers.**  What is written for modifiers is
read as these, and so is a JSON text that holds it, or the list of their keywords.  This list is
what is written for them in a document.

A text is read as modifiers if its words, the runs between its white space, are all keywords.  What is
written for these modifiers are the words again, separated by single spaces.  Otherwise the error is the
first word that is no keyword. -/
theorem two_spellings :
    (∀ ms : Modifiers, parse (text ms) = .ok ms ∧ ofJson (Json.write (.string (text ms))) = .ok ms ∧
      ofJson (Json.write (.texts (ms.map Modifier.keyword))) = .ok ms ∧
      ms.encode = .texts (ms.map Modifier.keyword)) ∧
    ∀ s, (∀ runs, Text.Runs s.toList runs ↔ runs = (Text.wordsOf s).map String.toList) ∧
      ((∃ ms, parse s = .ok ms) ↔ ∀ word ∈ Text.wordsOf s, IsKeyword word) ∧
      (∀ ms, parse s = .ok ms → text ms = String.intercalate " " (Text.wordsOf s)) ∧
      ∀ word, parse s = .error word ↔ ∃ before rest, Text.wordsOf s = before ++ word :: rest ∧
        (∀ w ∈ before, IsKeyword w) ∧ ¬IsKeyword word := by
  refine ⟨fun ms => ⟨parse_text ms, ?_, ?_, encode_eq ms⟩, fun s => ⟨fun runs => ?_, parse_isOk_iff,
    fun ms => text_of_parse, fun word => ofWords_eq_error_iff⟩⟩
  · refine ofJson_write (.string (text ms)) (Nat.zero_le _) ?_
    rw [decode_string, parse_text]
    rfl
  · exact ofJson_write (plain_texts _) (by decide) (decode_texts_eq_ok_iff.mpr rfl)
  · rw [Text.toList_wordsOf, Text.runs_iff, eq_comm]

/-- Tabs, line breaks and wide spaces separate keywords, and a keyword may be repeated. -/
theorem two_spellings_spaced :
    parse "\tstatic\u3000partial \n static " = .ok [.static, .partial_, .static] ∧
      text [.static, .partial_, .static] =
        String.intercalate " " (Text.wordsOf "\tstatic\u3000partial \n static ") ∧
      parse "static Partial\u00a0ref" = .error "Partial" := by
  obtain ⟨-, -, htext, -⟩ := two_spellings.2 "\tstatic\u3000partial \n static "
  obtain ⟨-, -, -, herror⟩ := two_spellings.2 "static Partial\u00a0ref"
  have hread : parse "\tstatic\u3000partial \n static " = .ok [.static, .partial_, .static] := by
    decide
  refine ⟨hread, htext _ hread, (herror "Partial").mpr ⟨["static"], ["ref"], by decide, ?_, ?_⟩⟩
  · exact List.forall_mem_singleton.mpr ⟨.static, rfl⟩
  · rintro ⟨m, hm⟩
    cases m <;> exact absurd hm (by decide)

end DataContract.Declaration.Modifiers
