import DataContract.Proofs.Cache.Delimited

/-!
# The parts of a key

Every part of a candidate that goes into a key has a self-delimiting encoding: its numbers are words,
its texts end in a byte of their own, and its lists are preceded by their lengths.

The encodings of a constant and of a member begin with a number that tells its sort, so two items of
different sorts differ in their first word.
-/

namespace DataContract

open Declaration

open CacheKey (wordLimit)

/-! ## Lists that fit in a memory -/

/-- The lists of a header can be counted by a word. -/
def Declaration.TypeHeader.Addressable (h : TypeHeader) : Prop :=
  h.modifiers.length < wordLimit ∧ h.typeParameters.length < wordLimit

/-- The named arguments of a use of an attribute can be counted by a word. -/
def Declaration.AttributeUsage.Addressable (usage : AttributeUsage) : Prop :=
  usage.named.length < wordLimit

/-- The lists of a member can be counted by a word. -/
def Declaration.Member.Addressable : Member → Prop
  | .field d => d.modifiers.length < wordLimit ∧ d.names.length < wordLimit
  | .property d => d.modifiers.length < wordLimit
  | .method d => d.modifiers.length < wordLimit ∧ d.parameters.length < wordLimit
  | .other d => d.modifiers.length < wordLimit

/-- The lists in a candidate can be counted by a word, as every list in a memory can. -/
structure Declaration.Candidate.Addressable (c : Candidate) : Prop where
  header : c.header.Addressable
  enclosing_length : c.enclosing.length < wordLimit
  enclosing : ∀ h ∈ c.enclosing, h.Addressable
  attributes : ∀ usage ∈ c.attributes, usage.Addressable
  members : ∀ m ∈ c.members, m.Addressable

namespace CacheKey

/-! ## Headers -/

theorem delimits_ofKind : Delimits (fun _ => True) ofKind := by
  intro a b s t _ _ h
  cases a <;> cases b <;>
    first
      | exact ⟨rfl, (List.append_right_inj _).mp h⟩
      | exact absurd (delimits_word (by decide) (by decide) h).1 (by decide)

theorem delimits_ofEngine : Delimits (fun _ => True) ofEngine := by
  intro a b s t _ _ h
  cases a <;> cases b <;>
    first
      | exact ⟨rfl, (List.append_right_inj _).mp h⟩
      | exact absurd (delimits_word (by decide) (by decide) h).1 (by decide)

theorem rank_injective : Function.Injective Modifier.rank := fun a _ h =>
  (List.idxOf_inj (Modifier.mem_all a)).mp h

theorem rank_lt (m : Modifier) : m.rank < wordLimit := by
  have h : m.rank < Modifier.all.length := List.idxOf_lt_length_iff.mpr (Modifier.mem_all m)
  exact Nat.lt_trans h (by decide)

theorem delimits_ofModifiers : Delimits (fun ms => ms.length < wordLimit) ofModifiers := by
  intro a b s t ha hb h
  exact (delimits_word_of rank_injective rank_lt).listOf ⟨ha, fun _ _ => trivial⟩
    ⟨hb, fun _ _ => trivial⟩ h

theorem delimits_texts : Delimits (fun l => l.length < wordLimit) (listOf text) := by
  intro a b s t ha hb h
  exact delimits_text.listOf ⟨ha, fun _ _ => trivial⟩ ⟨hb, fun _ _ => trivial⟩ h

theorem delimits_ofHeader : Delimits TypeHeader.Addressable ofHeader := by
  rintro ⟨name, kind, modifiers, parameters⟩ ⟨name', kind', modifiers', parameters'⟩ s t ha hb h
  simp only [ofHeader, List.append_assoc] at h
  obtain ⟨rfl, h1⟩ := delimits_text trivial trivial h
  obtain ⟨rfl, h2⟩ := delimits_ofKind trivial trivial h1
  obtain ⟨rfl, h3⟩ := delimits_ofModifiers ha.1 hb.1 h2
  obtain ⟨rfl, h4⟩ := delimits_texts ha.2 hb.2 h3
  exact ⟨rfl, h4⟩

/-! ## Uses of attributes -/

/-- The number that tells the sort of an item. -/
theorem delimits_sort {m n : Nat} {s t : List UInt8} (hm : m < 4) (hn : n < 4)
    (h : word m ++ s = word n ++ t) : m = n ∧ s = t :=
  delimits_word (Nat.lt_trans hm (by decide)) (Nat.lt_trans hn (by decide)) h

theorem delimits_ofConstant : Delimits (fun _ => True) ofConstant := by
  intro a b s t _ _ h
  cases a <;> cases b <;> simp only [ofConstant, List.append_assoc] at h
  case null.null => exact ⟨rfl, (delimits_sort (by decide) (by decide) h).2⟩
  case boolean.boolean x y =>
    have h1 := (delimits_sort (by decide) (by decide) h).2
    obtain ⟨rfl, h2⟩ := delimits_truth trivial trivial h1
    exact ⟨rfl, h2⟩
  case integer.integer x y =>
    have h1 := (delimits_sort (by decide) (by decide) h).2
    obtain ⟨hword, h2⟩ := delimits_word x.toUInt64.toNat_lt y.toUInt64.toNat_lt h1
    have hxy : x = y := congrArg Int64.ofUInt64 (UInt64.toNat_inj.mp hword)
    exact ⟨congrArg _ hxy, h2⟩
  case string.string x y =>
    have h1 := (delimits_sort (by decide) (by decide) h).2
    obtain ⟨rfl, h2⟩ := delimits_text trivial trivial h1
    exact ⟨rfl, h2⟩
  all_goals exact absurd (delimits_sort (by decide) (by decide) h).1 (by decide)

theorem delimits_ofArgument : Delimits (fun _ => True) ofArgument := by
  rintro ⟨name, value⟩ ⟨name', value'⟩ s t _ _ h
  simp only [ofArgument, List.append_assoc] at h
  obtain ⟨rfl, h1⟩ := delimits_text trivial trivial h
  obtain ⟨rfl, h2⟩ := delimits_ofConstant trivial trivial h1
  exact ⟨rfl, h2⟩

theorem delimits_ofUsage : Delimits AttributeUsage.Addressable ofUsage := by
  rintro ⟨path, named, arguments⟩ ⟨path', named', arguments'⟩ s t ha hb h
  simp only [ofUsage, List.append_assoc] at h
  obtain ⟨rfl, h1⟩ := delimits_text trivial trivial h
  obtain ⟨rfl, h2⟩ :=
    delimits_ofArgument.listOf ⟨ha, fun _ _ => trivial⟩ ⟨hb, fun _ _ => trivial⟩ h1
  obtain ⟨rfl, h3⟩ := delimits_text trivial trivial h2
  exact ⟨rfl, h3⟩

/-! ## Members -/

theorem delimits_ofParameter : Delimits (fun _ => True) ofParameter := by
  rintro ⟨ty, name⟩ ⟨ty', name'⟩ s t _ _ h
  simp only [ofParameter, List.append_assoc] at h
  obtain ⟨rfl, h1⟩ := delimits_text trivial trivial h
  obtain ⟨rfl, h2⟩ := delimits_text trivial trivial h1
  exact ⟨rfl, h2⟩

theorem delimits_ofMember : Delimits Member.Addressable ofMember := by
  intro a b s t ha hb h
  cases a <;> cases b <;> simp only [ofMember, List.append_assoc] at h
  case field.field x y =>
    obtain ⟨modifiers, ty, names⟩ := x
    obtain ⟨modifiers', ty', names'⟩ := y
    have h1 := (delimits_sort (by decide) (by decide) h).2
    obtain ⟨rfl, h2⟩ := delimits_ofModifiers ha.1 hb.1 h1
    obtain ⟨rfl, h3⟩ := delimits_text trivial trivial h2
    obtain ⟨rfl, h4⟩ := delimits_texts ha.2 hb.2 h3
    exact ⟨rfl, h4⟩
  case property.property x y =>
    obtain ⟨modifiers, ty, name⟩ := x
    obtain ⟨modifiers', ty', name'⟩ := y
    have h1 := (delimits_sort (by decide) (by decide) h).2
    obtain ⟨rfl, h2⟩ := delimits_ofModifiers ha hb h1
    obtain ⟨rfl, h3⟩ := delimits_text trivial trivial h2
    obtain ⟨rfl, h4⟩ := delimits_text trivial trivial h3
    exact ⟨rfl, h4⟩
  case method.method x y =>
    obtain ⟨modifiers, ty, name, parameters⟩ := x
    obtain ⟨modifiers', ty', name', parameters'⟩ := y
    have h1 := (delimits_sort (by decide) (by decide) h).2
    obtain ⟨rfl, h2⟩ := delimits_ofModifiers ha.1 hb.1 h1
    obtain ⟨rfl, h3⟩ := delimits_text trivial trivial h2
    obtain ⟨rfl, h4⟩ := delimits_text trivial trivial h3
    obtain ⟨rfl, h5⟩ :=
      delimits_ofParameter.listOf ⟨ha.2, fun _ _ => trivial⟩ ⟨hb.2, fun _ _ => trivial⟩ h4
    exact ⟨rfl, h5⟩
  case other.other x y =>
    obtain ⟨modifiers, name⟩ := x
    obtain ⟨modifiers', name'⟩ := y
    have h1 := (delimits_sort (by decide) (by decide) h).2
    obtain ⟨rfl, h2⟩ := delimits_ofModifiers ha hb h1
    obtain ⟨rfl, h3⟩ := delimits_text.optional trivial trivial h2
    exact ⟨rfl, h3⟩
  all_goals exact absurd (delimits_sort (by decide) (by decide) h).1 (by decide)

end CacheKey

end DataContract
