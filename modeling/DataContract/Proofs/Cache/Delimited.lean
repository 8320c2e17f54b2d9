import DataContract.Cache.Key
import DataContract.Proofs.Text.Split
import Mathlib.Data.List.Basic

/-!
# Keys are put together from self-delimiting parts

An encoding is *self-delimiting* if the bytes of an item show where they end: whatever follows
them, they are not the beginning of the bytes of another item.  `Delimits` says so of the items that
satisfy a condition.

* A word delimits numbers below `wordLimit`, and a text is delimited by the byte `0xff`, which
  occurs nowhere in UTF-8.
* A list that is preceded by its length is delimited if its items are, as long as a word counts it.
  `Addressable` asks that of all lists in a candidate; no memory holds a longer one.
* A list that is not preceded by its length is not delimited.  `Delimits.flatMap_append` says what
  remains true of it: of two such lists one begins with the other, and the surplus has to be found
  in what follows.
-/

namespace DataContract

open Declaration

namespace CacheKey

/-- The encoding of the items that satisfy `fits` is self-delimiting. -/
def Delimits {α : Type} (fits : α → Prop) (bytes : α → List UInt8) : Prop :=
  ∀ ⦃a b : α⦄ ⦃s t : List UInt8⦄, fits a → fits b → bytes a ++ s = bytes b ++ t → a = b ∧ s = t

variable {α : Type}

/-! ## Words -/

/-- The first number that a word does not hold. -/
def wordLimit : Nat := 0x10000000000000000

@[simp] theorem length_word (n : Nat) : (word n).length = 8 := by
  simp [word]

theorem word_inj {m n : Nat} (hm : m < wordLimit) (hn : n < wordLimit) (h : word m = word n) :
    m = n := by
  have hbyte : ∀ i < 8, m / Nat.pow 256 i % 256 = n / Nat.pow 256 i % 256 := by
    intro i hi
    have hget := congrArg (fun bytes : List UInt8 => bytes[i]?) h
    simp only [word, List.getElem?_map, List.getElem?_range hi, Option.map_some,
      Option.some.injEq] at hget
    simpa using congrArg UInt8.toNat hget
  have h0 := hbyte 0 (by decide)
  have h1 := hbyte 1 (by decide)
  have h2 := hbyte 2 (by decide)
  have h3 := hbyte 3 (by decide)
  have h4 := hbyte 4 (by decide)
  have h5 := hbyte 5 (by decide)
  have h6 := hbyte 6 (by decide)
  have h7 := hbyte 7 (by decide)
  simp only [Nat.pow_eq, Nat.reducePow, Nat.div_one] at h0 h1 h2 h3 h4 h5 h6 h7
  rw [wordLimit] at hm hn
  omega

/-- An encoding of fixed length is self-delimiting if it is injective. -/
theorem delimits_of_length {fits : α → Prop} {bytes : α → List UInt8} (n : Nat)
    (hlen : ∀ a, (bytes a).length = n)
    (hinj : ∀ ⦃a b⦄, fits a → fits b → bytes a = bytes b → a = b) : Delimits fits bytes := by
  intro a b s t ha hb h
  obtain ⟨hbytes, hrest⟩ := List.append_inj h (by rw [hlen, hlen])
  exact ⟨hinj ha hb hbytes, hrest⟩

theorem delimits_word : Delimits (· < wordLimit) word :=
  delimits_of_length 8 length_word fun _ _ => word_inj

/-- Items that are told apart by small numbers are delimited by those. -/
theorem delimits_word_of {number : α → Nat} (hinj : Function.Injective number)
    (hlt : ∀ a, number a < wordLimit) : Delimits (fun _ => True) fun a => word (number a) := by
  intro a b s t _ _ h
  obtain ⟨hnumber, hrest⟩ := delimits_word (hlt a) (hlt b) h
  exact ⟨hinj hnumber, hrest⟩

theorem delimits_truth : Delimits (fun _ => True) truth := by
  refine delimits_of_length 1 (fun _ => rfl) ?_
  intro a b _ _ h
  revert h
  cases a <;> cases b <;> decide

/-! ## Texts -/

/-- The byte `0xff` does not occur in UTF-8. -/
theorem notMem_utf8EncodeChar (c : Char) : 0xff ∉ String.utf8EncodeChar c := by
  have hne : ∀ n : Nat, n % 256 ≠ 255 → (0xff : UInt8) ≠ UInt8.ofNat n := by
    intro n hn h
    exact hn (by simpa using (congrArg UInt8.toNat h).symm)
  unfold String.utf8EncodeChar
  dsimp only
  split
  · rw [List.mem_singleton]
    exact hne _ (by omega)
  · split
    · simp only [List.mem_cons, List.not_mem_nil, or_false, not_or]
      exact ⟨hne _ (by omega), hne _ (by omega)⟩
    · split
      · simp only [List.mem_cons, List.not_mem_nil, or_false, not_or]
        exact ⟨hne _ (by omega), hne _ (by omega), hne _ (by omega)⟩
      · simp only [List.mem_cons, List.not_mem_nil, or_false, not_or]
        exact ⟨hne _ (by omega), hne _ (by omega), hne _ (by omega), hne _ (by omega)⟩

theorem notMem_utf8 (s : String) : 0xff ∉ utf8 s := by
  rw [utf8, List.mem_flatMap]
  rintro ⟨c, -, hc⟩
  exact notMem_utf8EncodeChar c hc

/-- A text is determined by its bytes. -/
theorem utf8_inj {s t : String} (h : utf8 s = utf8 t) : s = t := by
  have hbytes : s.toList.utf8Encode = t.toList.utf8Encode := by
    rw [List.utf8Encode, List.utf8Encode, ← utf8, ← utf8, h]
  rw [String.utf8Encode_toList, String.utf8Encode_toList] at hbytes
  exact String.toByteArray_inj.mp hbytes

theorem delimits_text : Delimits (fun _ => True) text := by
  intro a b s t _ _ h
  rw [text, text, List.append_assoc, List.append_assoc, List.singleton_append,
    List.singleton_append] at h
  obtain ⟨hbytes, hrest⟩ := Text.split_at_first (notMem_utf8 a) (notMem_utf8 b) h
  exact ⟨utf8_inj hbytes, hrest⟩

/-- Every text puts the byte `0xff` into a key. -/
theorem mem_text (s : String) : 0xff ∈ text s :=
  List.mem_append_right _ (List.mem_singleton.mpr rfl)

/-! ## Lists -/

/-- **Two lists of self-delimiting items that are not preceded by their lengths.**  One begins with
the other, and its surplus stands where the other has already ended. -/
theorem Delimits.flatMap_append {fits : α → Prop} {bytes : α → List UInt8}
    (hd : Delimits fits bytes) {xs ys : List α} (hx : ∀ x ∈ xs, fits x) (hy : ∀ y ∈ ys, fits y)
    {s t : List UInt8} (h : xs.flatMap bytes ++ s = ys.flatMap bytes ++ t) :
    (∃ zs, ys = xs ++ zs ∧ s = zs.flatMap bytes ++ t) ∨
      (∃ zs, xs = ys ++ zs ∧ t = zs.flatMap bytes ++ s) := by
  induction xs generalizing ys with
  | nil => exact Or.inl ⟨ys, rfl, h⟩
  | cons x xs ih =>
    cases ys with
    | nil => exact Or.inr ⟨x :: xs, rfl, h.symm⟩
    | cons y ys =>
      rw [List.flatMap_cons, List.flatMap_cons, List.append_assoc, List.append_assoc] at h
      obtain ⟨rfl, hrest⟩ := hd (hx x (List.mem_cons_self ..)) (hy y (List.mem_cons_self ..)) h
      rcases ih (fun z hz => hx z (List.mem_cons_of_mem _ hz))
          (fun z hz => hy z (List.mem_cons_of_mem _ hz)) hrest with ⟨zs, rfl, hs⟩ | ⟨zs, rfl, ht⟩
      · exact Or.inl ⟨zs, rfl, hs⟩
      · exact Or.inr ⟨zs, rfl, ht⟩

/-- Two lists of equally many self-delimiting items. -/
theorem Delimits.flatMap_of_length {fits : α → Prop} {bytes : α → List UInt8}
    (hd : Delimits fits bytes) {xs ys : List α} (hx : ∀ x ∈ xs, fits x) (hy : ∀ y ∈ ys, fits y)
    (hlen : xs.length = ys.length) {s t : List UInt8}
    (h : xs.flatMap bytes ++ s = ys.flatMap bytes ++ t) : xs = ys ∧ s = t := by
  rcases hd.flatMap_append hx hy h with ⟨zs, rfl, hs⟩ | ⟨zs, rfl, ht⟩
  · have hnil : zs = [] := List.eq_nil_of_length_eq_zero (by simpa using hlen)
    subst hnil
    exact ⟨(List.append_nil _).symm, hs⟩
  · have hnil : zs = [] := List.eq_nil_of_length_eq_zero (by simpa using hlen)
    subst hnil
    exact ⟨List.append_nil _, ht.symm⟩

/-- A list preceded by its length is self-delimiting if its items are. -/
theorem Delimits.listOf {fits : α → Prop} {bytes : α → List UInt8} (hd : Delimits fits bytes) :
    Delimits (fun items => items.length < wordLimit ∧ ∀ a ∈ items, fits a) (listOf bytes) := by
  intro xs ys s t hx hy h
  rw [CacheKey.listOf, CacheKey.listOf, List.append_assoc, List.append_assoc] at h
  obtain ⟨hlen, hrest⟩ := delimits_word hx.1 hy.1 h
  exact hd.flatMap_of_length hx.2 hy.2 hlen hrest

/-- A value that may be missing is self-delimiting if the value is. -/
theorem Delimits.optional {bytes : α → List UInt8} (hd : Delimits (fun _ => True) bytes) :
    Delimits (fun _ => True) (optional bytes) := by
  intro a b s t _ _ h
  cases a with
  | none =>
    cases b with
    | none => exact ⟨rfl, (List.append_right_inj _).mp h⟩
    | some b =>
      rw [CacheKey.optional, CacheKey.optional, List.append_assoc] at h
      exact absurd (delimits_word (by decide) (by decide) h).1 (by decide)
  | some a =>
    cases b with
    | none =>
      rw [CacheKey.optional, CacheKey.optional, List.append_assoc] at h
      exact absurd (delimits_word (by decide) (by decide) h).1 (by decide)
    | some b =>
      rw [CacheKey.optional, CacheKey.optional, List.append_assoc, List.append_assoc] at h
      obtain ⟨rfl, hrest⟩ := hd trivial trivial (delimits_word (by decide) (by decide) h).2
      exact ⟨rfl, hrest⟩

end CacheKey

end DataContract
