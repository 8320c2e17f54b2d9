import DataContract.Proofs.Source.Lines
import Mathlib.Algebra.GroupWithZero.Nat
import Mathlib.Algebra.Order.BigOperators.Group.List
import Mathlib.Algebra.Order.Group.Nat

/-!
# Longer indentations make longer texts

The layout decides how a line is indented, but not which text it has.  So of two layouts that select
the same lines, the one with the longer indentation writes the longer text, as soon as one of these
lines is indented at all.
-/

namespace DataContract.Source

/-- The length of texts joined together, in bytes. -/
theorem utf8ByteSize_join (texts : List String) :
    (String.join texts).utf8ByteSize = (texts.map String.utf8ByteSize).sum := by
  induction texts with
  | nil => rfl
  | cons s texts ih =>
    rw [String.join_cons, String.utf8ByteSize_append, ih, List.map_cons, List.sum_cons]

/-- The length of a line in bytes. -/
theorem utf8ByteSize_layOut (indent : String) (l : Line) :
    (l.layOut indent).utf8ByteSize =
      (if l.text.isEmpty then 0 else l.depth * indent.utf8ByteSize + l.text.utf8ByteSize) + 1 := by
  have hend : "\n".utf8ByteSize = 1 := by decide
  rw [Line.layOut, String.utf8ByteSize_append, hend]
  by_cases h : l.text.isEmpty
  · rw [if_pos h, if_pos h, String.utf8ByteSize_empty]
  · rw [if_neg h, if_neg h, String.utf8ByteSize_append, utf8ByteSize_join, List.map_replicate,
      List.sum_replicate_nat]

/-- No line gets shorter by a longer indentation. -/
theorem layOut_le {short long : String} (h : short.utf8ByteSize ≤ long.utf8ByteSize) (l : Line) :
    (l.layOut short).utf8ByteSize ≤ (l.layOut long).utf8ByteSize := by
  rw [utf8ByteSize_layOut, utf8ByteSize_layOut]
  have hmul := Nat.mul_le_mul_left l.depth h
  split <;> omega

/-- A line that is indented gets longer by a longer indentation. -/
theorem layOut_lt {short long : String} (h : short.utf8ByteSize < long.utf8ByteSize) {l : Line}
    (hdepth : 0 < l.depth) (htext : l.text.isEmpty = false) :
    (l.layOut short).utf8ByteSize < (l.layOut long).utf8ByteSize := by
  rw [utf8ByteSize_layOut, utf8ByteSize_layOut, htext]
  have hmul := Nat.mul_lt_mul_of_pos_left h hdepth
  simp only [Bool.false_eq_true, if_false]
  omega

/-- **The length of the indentation shows in the text**, if a line of code is indented. -/
theorem render_ne_of_lt {k l : Layout} (hdocs : k.docComments = l.docComments)
    (hheader : k.header = l.header) (h : k.indent.utf8ByteSize < l.indent.utf8ByteSize) {root : Node}
    (hline : ∃ x ∈ root.lines 0, x.isDoc = false ∧ 0 < x.depth ∧ x.text.isEmpty = false) :
    root.render k ≠ root.render l := by
  have hmem : ∃ x ∈ (root.lines 0).filter fun x => l.docComments || !x.isDoc,
      0 < x.depth ∧ x.text.isEmpty = false := by
    obtain ⟨x, hx, hcode, hdepth, htext⟩ := hline
    refine ⟨x, List.mem_filter.mpr ⟨hx, ?_⟩, hdepth, htext⟩
    rw [hcode, Bool.not_false, Bool.or_true]
  have hwrite : (k.write (root.lines 0)).utf8ByteSize < (l.write (root.lines 0)).utf8ByteSize := by
    rw [Layout.write, Layout.write, hdocs, utf8ByteSize_join, utf8ByteSize_join, List.map_map,
      List.map_map]
    refine List.sum_lt_sum _ _ (fun x _ => layOut_le (Nat.le_of_lt h) x) ?_
    obtain ⟨x, hx, hdepth, htext⟩ := hmem
    exact ⟨x, hx, layOut_lt h hdepth htext⟩
  have hlt : (root.render k).utf8ByteSize < (root.render l).utf8ByteSize := by
    rw [render_eq, render_eq, hheader, String.utf8ByteSize_append, String.utf8ByteSize_append]
    exact Nat.add_lt_add_left hwrite _
  intro heq
  rw [heq] at hlt
  exact Nat.lt_irrefl _ hlt

end DataContract.Source
