import DataContract.Proofs.Declaration.Keywords
import DataContract.Proofs.Generation.Canonical
import DataContract.Proofs.Source.Nesting
import DataContract.Proofs.Text.Split

/-!
# Reading a header

A line that opens a type holds its modifiers, its kind and its name with the type parameters, and
there is little between them to tell them apart: the kind `record struct` looks like the kind `record`
of a type that is called `struct`, and the type parameters are separated by commas and blanks.

* `lead` is the form of every line that begins something.  Behind any number of modifiers stands a
  word that is none, and it tells what the line begins (`leadWords`).  Because keywords have no blanks
  in them, both are determined (`lead_inj`).
* A *plain* name has no white space in it, and no bracket or comma that could set off type parameters.
  So what stands behind it ends it, and for plain names the rest of the header is determined
  (`typeLine_inj`), and so is the line of a namespace (`spaceLine_inj`).

Nothing else is asked of names.  They may be keywords, and they may be empty.
-/

namespace DataContract

open Declaration

/-! ## Plain names -/

/-- Whether a character can end a name in a header. -/
def Text.isDelimiter (c : Char) : Bool := isBlank c || c == '<' || c == '>' || c == ','

/-- Whether nothing in a name can end it. -/
def Text.isPlain (name : String) : Bool := name.toList.all fun c => !isDelimiter c

/-- Whether a type and its type parameters have plain names. -/
def Declaration.TypeHeader.isPlain (h : TypeHeader) : Bool :=
  Text.isPlain h.name && h.typeParameters.all Text.isPlain

/-- Whether all names of a candidate are plain: those of its namespace, of the types around it, and
its own. -/
def Declaration.Candidate.isPlain (c : Candidate) : Bool :=
  c.namespaceSegments.all Text.isPlain && c.chain.all TypeHeader.isPlain

theorem Text.not_isDelimiter {name : String} (h : isPlain name = true) :
    ∀ c ∈ name.toList, ¬isDelimiter c = true := by
  intro c hc
  have hplain := List.all_eq_true.mp h c hc
  simpa using hplain

namespace Source

/-! ## What a line begins with -/

/-- Modifiers, and behind them a word. -/
def lead : Modifiers → String → List Char → List Char
  | [], word, rest => word.toList ++ ' ' :: rest
  | m :: ms, word, rest => m.keyword.toList ++ ' ' :: lead ms word rest

/-- The words that tell what a line begins. -/
def leadWords : List String :=
  ["namespace", "class", "interface", "record", "struct", "void", "///"]

theorem notMem_keyword (m : Modifier) : ' ' ∉ m.keyword.toList := by
  cases m <;> decide

theorem notMem_of_mem_leadWords {word : String} (h : word ∈ leadWords) : ' ' ∉ word.toList := by
  have hall : ∀ word ∈ leadWords, ' ' ∉ word.toList := by decide
  exact hall word h

theorem keyword_ne_of_mem_leadWords (m : Modifier) {word : String} (h : word ∈ leadWords) :
    m.keyword ≠ word := by
  have hall : ∀ word ∈ leadWords, ∀ m ∈ Modifier.all, m.keyword ≠ word := by decide
  exact hall word h m m.mem_all

theorem keyword_inj {m m' : Modifier} (h : m.keyword = m'.keyword) : m = m' := by
  rw [← Modifier.ofKeyword?_eq_some_iff, Modifier.ofKeyword?_keyword] at h
  exact (Option.some.inj h).symm

/-- **What a line begins with is determined**, the modifiers as well as the word behind them. -/
theorem lead_inj {ms ms' : Modifiers} {word word' : String} (hw : word ∈ leadWords)
    (hw' : word' ∈ leadWords) {s s' : List Char} (h : lead ms word s = lead ms' word' s') :
    ms = ms' ∧ word = word' ∧ s = s' := by
  have hblank := notMem_of_mem_leadWords hw
  have hblank' := notMem_of_mem_leadWords hw'
  induction ms generalizing ms' with
  | nil =>
    cases ms' with
    | nil =>
      obtain ⟨hword, hrest⟩ := Text.split_at_first hblank hblank' h
      exact ⟨rfl, String.toList_inj.mp hword, hrest⟩
    | cons m' ms' =>
      have hword := (Text.split_at_first hblank (notMem_keyword m') h).1
      exact absurd (String.toList_inj.mp hword).symm (keyword_ne_of_mem_leadWords m' hw)
  | cons m ms ih =>
    cases ms' with
    | nil =>
      have hword := (Text.split_at_first (notMem_keyword m) hblank' h).1
      exact absurd (String.toList_inj.mp hword) (keyword_ne_of_mem_leadWords m hw')
    | cons m' ms' =>
      obtain ⟨hword, hrest⟩ := Text.split_at_first (notMem_keyword m) (notMem_keyword m') h
      obtain ⟨rfl, hlead⟩ := ih hrest
      rw [keyword_inj (String.toList_inj.mp hword)]
      exact ⟨rfl, hlead⟩

/-! ## References -/

section References

variable {h h' : TypeHeader} {s s' : List Char}

/-- A reference in a line is the name up to a delimiter, which is the end of the line or the bracket
in front of the type parameters. -/
theorem toList_reference (h : TypeHeader) (s : List Char) :
    h.reference.toList ++ '\n' :: s = h.name.toList ++
      if h.typeParameters = [] then '\n' :: s
      else '<' :: ((String.intercalate ", " h.typeParameters).toList ++ '>' :: '\n' :: s) := by
  rw [TypeHeader.reference]
  by_cases hps : h.typeParameters = []
  · rw [hps, if_pos rfl]
    rfl
  · rw [if_neg (by simpa using hps), if_neg hps]
    simp

/-- A plain reference is determined. -/
theorem reference_inj (hplain : h.isPlain = true) (hplain' : h'.isPlain = true)
    (heq : h.reference.toList ++ '\n' :: s = h'.reference.toList ++ '\n' :: s') :
    h.name = h'.name ∧ h.typeParameters = h'.typeParameters ∧ s = s' := by
  rw [TypeHeader.isPlain, Bool.and_eq_true, List.all_eq_true] at hplain hplain'
  have hname := Text.not_isDelimiter hplain.1
  have hname' := Text.not_isDelimiter hplain'.1
  have hline : Text.isDelimiter '\n' = true := by decide
  have hbracket : Text.isDelimiter '<' = true := by decide
  rw [toList_reference, toList_reference] at heq
  by_cases hps : h.typeParameters = [] <;> by_cases hps' : h'.typeParameters = []
  · rw [if_pos hps, if_pos hps'] at heq
    obtain ⟨hnames, -, hrest⟩ := Text.split_at_stop hname hname' hline hline heq
    exact ⟨String.toList_inj.mp hnames, hps.trans hps'.symm, hrest⟩
  · rw [if_pos hps, if_neg hps'] at heq
    exact absurd (Text.split_at_stop hname hname' hline hbracket heq).2.1 (by decide)
  · rw [if_neg hps, if_pos hps'] at heq
    exact absurd (Text.split_at_stop hname hname' hbracket hline heq).2.1 (by decide)
  · rw [if_neg hps, if_neg hps'] at heq
    obtain ⟨hnames, -, hinside⟩ := Text.split_at_stop hname hname' hbracket hbracket heq
    obtain ⟨hparameters, hrest⟩ := Text.joined_inj (x := ',') (w := [' '])
      (p := fun c => Text.isDelimiter c = true) (by decide) (by decide) (by decide) (by decide)
      (fun p hp => Text.not_isDelimiter (hplain.2 p hp))
      (fun p hp => Text.not_isDelimiter (hplain'.2 p hp)) hps hps' hinside
    exact ⟨String.toList_inj.mp hnames, hparameters, List.tail_eq_of_cons_eq hrest⟩

/-- A plain reference at the end of a line does not read as a word with a blank behind it. -/
theorem reference_ne_word {word : String} (hword : Text.isPlain word = true)
    (hplain : h.isPlain = true) (rest : List Char) :
    h.reference.toList ++ '\n' :: s ≠ word.toList ++ ' ' :: rest := by
  rw [TypeHeader.isPlain, Bool.and_eq_true] at hplain
  have hname := Text.not_isDelimiter hplain.1
  have hword := Text.not_isDelimiter hword
  have hblank : Text.isDelimiter ' ' = true := by decide
  intro heq
  rw [toList_reference] at heq
  split at heq
  · exact absurd (Text.split_at_stop hname hword (by decide) hblank heq).2.1 (by decide)
  · exact absurd (Text.split_at_stop hname hword (by decide) hblank heq).2.1 (by decide)

end References

/-! ## Types -/

/-- The word that tells the kind of a type, be it the first of two. -/
def leadWord : TypeKind → String
  | .recordStruct => "record"
  | kind => kind.keyword

/-- The second word of a kind, with the blank behind it. -/
def secondWord : TypeKind → String
  | .recordStruct => "struct "
  | _ => ""

theorem leadWord_mem (kind : TypeKind) : leadWord kind ∈ leadWords := by
  cases kind <;> decide

/-- Only the two kinds of record have their first word in common. -/
theorem kind_of_leadWord_eq {kind kind' : TypeKind} (h : leadWord kind = leadWord kind') :
    kind = kind' ∨ (kind = .record ∧ kind' = .recordStruct) ∨
      (kind = .recordStruct ∧ kind' = .record) := by
  revert h
  cases kind <;> cases kind' <;> decide

/-- The line that opens a type begins with its modifiers and the word for its kind. -/
theorem toList_typeLine (h : TypeHeader) (s : List Char) :
    (typeLine h).toList ++ s = lead h.modifiers (leadWord h.kind)
      ((secondWord h.kind).toList ++ (h.reference.toList ++ s)) := by
  rw [typeLine]
  induction h.modifiers with
  | nil =>
    have hkind : h.kind.keyword.toList ++ [' '] =
        (leadWord h.kind).toList ++ ' ' :: (secondWord h.kind).toList := by
      cases h.kind <;> decide
    have hblank : " ".toList = [' '] := by decide
    rw [List.map_nil, List.nil_append, String.intercalate_cons_cons, String.intercalate_singleton,
      String.toList_append, String.toList_append, hblank, hkind, lead]
    simp only [List.append_assoc, List.cons_append]
  | cons m ms ih =>
    rw [List.map_cons, List.cons_append, String.intercalate_cons_of_ne_nil (by simp),
      String.toList_append, String.toList_append, lead, ← ih]
    simp

/-- **The line that opens a type determines it.** -/
theorem typeLine_inj {h h' : TypeHeader} (hplain : h.isPlain = true) (hplain' : h'.isPlain = true)
    {s s' : List Char}
    (heq : (typeLine h).toList ++ '\n' :: s = (typeLine h').toList ++ '\n' :: s') :
    h = h' ∧ s = s' := by
  rw [toList_typeLine, toList_typeLine] at heq
  obtain ⟨hmodifiers, hword, hrest⟩ := lead_inj (leadWord_mem _) (leadWord_mem _) heq
  have hstruct : Text.isPlain "struct" = true := by decide
  have hkind : h.kind = h'.kind := by
    rcases kind_of_leadWord_eq hword with hsame | ⟨hk, hk'⟩ | ⟨hk, hk'⟩
    · exact hsame
    · rw [hk, hk'] at hrest
      exact absurd hrest (reference_ne_word hstruct hplain _)
    · rw [hk, hk'] at hrest
      exact absurd hrest.symm (reference_ne_word hstruct hplain' _)
  rw [hkind] at hrest
  obtain ⟨hname, hparameters, hs⟩ :=
    reference_inj hplain hplain' (List.append_cancel_left hrest)
  refine ⟨?_, hs⟩
  cases h
  cases h'
  cases hmodifiers
  cases hkind
  cases hname
  cases hparameters
  rfl

/-! ## Namespaces -/

/-- The line that opens the namespace of the given segments. -/
def spaceLine (segments : List String) : String := "namespace " ++ String.intercalate "." segments

theorem toList_spaceLine (segments : List String) (s : List Char) :
    (spaceLine segments).toList ++ s =
      lead [] "namespace" ((String.intercalate "." segments).toList ++ s) := by
  have hspace : "namespace ".toList = "namespace".toList ++ [' '] := by decide
  rw [spaceLine, String.toList_append, hspace, lead]
  simp only [List.append_assoc, List.cons_append, List.nil_append]

/-- The segments of a namespace are not empty, and there are no dots in them. -/
theorem mem_segments {n : Namespace} {segment : String} (h : segment ∈ n.segments) :
    segment ≠ "" ∧ '.' ∉ segment.toList := by
  rw [Namespace.segments, List.mem_map] at h
  obtain ⟨cs, hcs, rfl⟩ := h
  have hsegment := Namespace.isSegment_of_mem hcs
  rw [String.toList_ofList]
  exact ⟨by simpa using hsegment.ne_nil, hsegment.noDot⟩

theorem mem_namespaceSegments {c : Candidate} {segment : String}
    (h : segment ∈ c.namespaceSegments) : segment ≠ "" ∧ '.' ∉ segment.toList := by
  rw [Candidate.namespaceSegments] at h
  split at h
  · exact mem_segments h
  · cases h

/-- The namespace has a line of its own, which comes first, unless it has no segments. -/
theorem levels_eq (c : Candidate) : levels c =
    (if c.namespaceSegments = [] then [] else [spaceLine c.namespaceSegments]) ++
      c.chain.map typeLine := by
  rw [levels, Candidate.namespaceSegments]
  cases c.within with
  | none => rfl
  | some n =>
    rw [Option.map_some, Option.filter_some]
    dsimp only
    by_cases hnone : n.segments = []
    · simp [Namespace.canonical, hnone]
    · obtain ⟨segment, rest, hsegments⟩ := List.exists_cons_of_ne_nil hnone
      have hsegment : segment ≠ "" := (mem_segments (hsegments ▸ List.mem_cons_self ..)).1
      have hcanonical : String.intercalate "." (segment :: rest) ≠ "" := by
        cases rest <;> simp [hsegment]
      simp [Namespace.canonical, hsegments, hcanonical, spaceLine]

/-- Whether a character can end a segment of a namespace in the line that opens it. -/
def endsSegment (c : Char) : Bool := Text.isDelimiter c || c == '.'

/-- Nothing in the segments of a plain namespace can end one. -/
theorem not_endsSegment {c : Candidate} (hplain : c.namespaceSegments.all Text.isPlain = true) :
    ∀ segment ∈ c.namespaceSegments, ∀ x ∈ segment.toList, ¬endsSegment x = true := by
  intro segment hsegment x hx hends
  rw [endsSegment, Bool.or_eq_true, beq_iff_eq] at hends
  rcases hends with hdelimiter | rfl
  · exact Text.not_isDelimiter (List.all_eq_true.mp hplain segment hsegment) x hx hdelimiter
  · exact (mem_namespaceSegments hsegment).2 hx

/-- **The line that opens a namespace determines its segments.** -/
theorem spaceLine_inj {segments segments' : List String} (hne : segments ≠ [])
    (hne' : segments' ≠ [])
    (hends : ∀ segment ∈ segments, ∀ x ∈ segment.toList, ¬endsSegment x = true)
    (hends' : ∀ segment ∈ segments', ∀ x ∈ segment.toList, ¬endsSegment x = true)
    {s s' : List Char} (heq : (spaceLine segments).toList ++ '\n' :: s =
      (spaceLine segments').toList ++ '\n' :: s') : segments = segments' ∧ s = s' := by
  have hspace : "namespace" ∈ leadWords := by decide
  rw [toList_spaceLine, toList_spaceLine] at heq
  exact Text.joined_inj (x := '.') (w := []) (p := fun c => endsSegment c = true) (by decide)
    (by decide) (by decide) (by decide) hends hends' hne hne' (lead_inj hspace hspace heq).2.2

end Source

end DataContract
