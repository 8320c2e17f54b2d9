import DataContract.Declaration.Candidate
import DataContract.Proofs.Text.Split
import Mathlib.Data.List.Forall2

/-!
# Reading a displayed name

A qualified name is displayed with a dot between its segments, and with a backquote before the number
of type parameters, where there are any.  Neither is escaped in a name, so a display can be read back
only if the names have none of the two in them.

* `Segment.read_text` --- what stands before the backquote is the name, and the digits behind it are
  the number.  If there is no backquote, no digits are left, and those make zero.
* `QualifiedName.read_text` --- the dots show where the segments end, because there are none in a
  displayed segment.  One segment at least there has to be: no segments at all and a single one without
  a name are displayed in the same way.

Nothing else is asked of names.  They may be empty, and they may begin with a digit.
-/

namespace DataContract.Declaration

namespace Segment

/-- The character before the number of type parameters. -/
def backquote : Char := '\x60'

/-- Whether the name of a segment has one of the two characters in it that set off the parts of a
displayed name. -/
def isMarked (s : Segment) : Bool := s.name.toList.any fun c => c == '.' || c == backquote

theorem not_mark_of_mem {s : Segment} (hs : s.isMarked = false) {c : Char}
    (hc : c ∈ s.name.toList) : c ≠ '.' ∧ c ≠ backquote := by
  have hmark := List.any_eq_false.mp hs c hc
  simpa using hmark

/-! ## Segments -/

/-- The segment that is displayed by the given characters. -/
def read (cs : List Char) : Segment :=
  ⟨String.ofList (cs.takeWhile (· != backquote)), Nat.ofDigitChars 10 (cs.dropWhile (· != backquote)).tail 0⟩

/-- A segment is displayed by its name, and a backquote and a number if it has type parameters. -/
theorem toList_text (s : Segment) :
    s.text.toList = s.name.toList ++ (if s.arity = 0 then [] else backquote :: Nat.toDigits 10 s.arity) := by
  rw [text]
  by_cases harity : s.arity = 0
  · rw [if_pos harity, if_pos harity, List.append_nil]
  · have hmark : (toString "`").toList = [backquote] := rfl
    have hnumber : (toString s.arity).toList = Nat.toDigits 10 s.arity := Nat.toList_repr
    rw [if_neg harity, if_neg harity, String.toList_append, String.toList_append, hmark, hnumber,
      List.append_assoc]
    rfl

/-- **A displayed segment is read back.** -/
theorem read_text {s : Segment} (hs : s.isMarked = false) : read s.text.toList = s := by
  have hname : ∀ c ∈ s.name.toList, (c != backquote) = true := fun c hc => by
    simpa using (not_mark_of_mem hs hc).2
  obtain ⟨name, arity⟩ := s
  rw [toList_text, read, List.takeWhile_append_of_pos hname, List.dropWhile_append_of_pos hname]
  dsimp only
  by_cases harity : arity = 0
  · rw [if_pos harity, harity, List.takeWhile_nil, List.append_nil, String.ofList_toList]
    rfl
  · have hnumber : Nat.ofDigitChars 10 (Nat.toDigits 10 arity) 0 = arity :=
      Nat.ofDigitChars_toDigits (by decide) (by decide)
    rw [if_neg harity, List.takeWhile_cons_of_neg (by simp), List.dropWhile_cons_of_neg (by simp),
      List.append_nil, String.ofList_toList, List.tail_cons, hnumber]

/-- There are no dots in a displayed segment. -/
theorem dot_notMem_text {s : Segment} (hs : s.isMarked = false) : '.' ∉ s.text.toList := by
  rw [toList_text, List.mem_append, not_or]
  refine ⟨fun hdot => (not_mark_of_mem hs hdot).1 rfl, fun hdot => ?_⟩
  split at hdot
  · cases hdot
  · rcases List.mem_cons.mp hdot with hmark | hdigit
    · exact absurd hmark (by decide)
    · have hdigit := Nat.isDigit_of_mem_toDigits (b := 10) (by decide) (by decide) hdigit
      exact absurd hdigit (by decide)

end Segment

/-! ## Qualified names -/

namespace QualifiedName

/-- The qualified name that is displayed by the given characters. -/
def read (cs : List Char) : QualifiedName :=
  ⟨(Text.splitWhere (· == '.') cs).map Segment.read⟩

theorem toList_text (n : QualifiedName) :
    n.text.toList = ['.'].intercalate (n.segments.map (·.text.toList)) := by
  rw [text, String.toList_intercalate, List.map_map]
  rfl

/-- **A displayed name is read back.** -/
theorem read_text {n : QualifiedName} (hne : n.segments ≠ [])
    (hn : ∀ s ∈ n.segments, s.isMarked = false) : read n.text.toList = n := by
  have hpieces : ∀ piece ∈ n.segments.map (·.text.toList), '.' ∉ piece := by
    intro piece hpiece
    obtain ⟨s, hs, rfl⟩ := List.mem_map.mp hpiece
    exact Segment.dot_notMem_text (hn s hs)
  have hread : n.segments.map (Segment.read ∘ (·.text.toList)) = n.segments :=
    (List.map_congr_left fun s hs => Segment.read_text (hn s hs)).trans (List.map_id' n.segments)
  rw [read, toList_text, Text.splitWhere_intercalate (by simpa using hne) hpieces, List.map_map, hread]

/-- A display determines the qualified name. -/
theorem text_inj {m n : QualifiedName} (hmne : m.segments ≠ []) (hnne : n.segments ≠ [])
    (hm : ∀ s ∈ m.segments, s.isMarked = false) (hn : ∀ s ∈ n.segments, s.isMarked = false)
    (h : m.text = n.text) : m = n := by
  rw [← read_text hmne hm, h, read_text hnne hn]

/-- Qualified names are the same if they are the same segment by segment. -/
theorem eq_iff_forall₂ {m n : QualifiedName} :
    m = n ↔ List.Forall₂ (fun s t => s.name = t.name ∧ s.arity = t.arity) m.segments n.segments := by
  have hsegment : (fun s t : Segment => s.name = t.name ∧ s.arity = t.arity) = Eq := by
    funext s t
    rw [← Segment.mk.injEq]
  obtain ⟨segments⟩ := m
  obtain ⟨segments'⟩ := n
  rw [hsegment, List.forall₂_eq_eq_eq, QualifiedName.mk.injEq]

end QualifiedName

/-- A candidate has a segment of its own in its qualified name. -/
theorem Candidate.segments_qualifiedName_ne_nil (c : Candidate) : c.qualifiedName.segments ≠ [] := by
  simp [qualifiedName, chain]

end DataContract.Declaration
