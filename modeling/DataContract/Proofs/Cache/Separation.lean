import DataContract.Proofs.Cache.Parts
import DataContract.Proofs.Generation.Relevant

/-!
# What a key keeps apart

Up to the uses of the marker a key is put together from self-delimiting parts, so those are
determined by it.  Then come two lists without lengths.

* The uses of the marker are determined as well: a surplus of them would bring texts with it, and
  what follows the members has only one.
* The static members are not.  `Surplus` says what they can be mistaken for: the beginning of an
  indentation.  `Surplus.head` says how unlikely such an indentation is, since its first character
  is U+0003.

`of_eq_of` sums this up: two keys are only equal if the relevant parts are, or if the indentation of
one layout has the bytes of some static members in front of that of the other.
-/

namespace DataContract

open Declaration

namespace CacheKey

/-! ## The end of a key -/

/-- What follows the indentation in a key. -/
def tailOf (a : Configuration) : List UInt8 :=
  0xff :: truth a.layout.docComments ++ truth a.layout.header ++ ofPolicy a.unresolved

@[simp] theorem length_tailOf (a : Configuration) : (tailOf a).length = 11 := by
  have hpolicy : (ofPolicy a.unresolved).length = 8 := by
    cases a.unresolved <;> exact length_word _
  simp [tailOf, truth, hpolicy]

/-- What follows the members in a key. -/
theorem ofLayout_append (a : Configuration) :
    ofLayout a.layout ++ ofPolicy a.unresolved = utf8 a.layout.indent ++ tailOf a := by
  simp [ofLayout, text, tailOf]

/-- The end of a key determines the policy and all of the layout but its indentation. -/
theorem tailOf_inj {a b : Configuration} (h : tailOf a = tailOf b) :
    a.unresolved = b.unresolved ∧ a.layout.docComments = b.layout.docComments ∧
      a.layout.header = b.layout.header := by
  simp only [tailOf, List.cons_append, List.append_assoc, List.cons.injEq, true_and] at h
  obtain ⟨hdocs, h1⟩ := delimits_truth trivial trivial h
  obtain ⟨hheader, h2⟩ := delimits_truth trivial trivial h1
  refine ⟨?_, hdocs, hheader⟩
  revert h2
  cases a.unresolved <;> cases b.unresolved <;> decide

/-- A layout is determined by its parts. -/
theorem layout_eq {k l : Source.Layout} (hindent : k.indent = l.indent)
    (hdocs : k.docComments = l.docComments) (hheader : k.header = l.header) : k = l := by
  obtain ⟨_, _, _⟩ := k
  obtain ⟨_, _, _⟩ := l
  rw [Source.Layout.mk.injEq]
  exact ⟨hindent, hdocs, hheader⟩

/-! ## Surplus -/

/-- A text has the bytes of some static members in front of those of another text. -/
def Surplus (long short : String) : Prop :=
  ∃ ms : List Member, ms ≠ [] ∧ (∀ m ∈ ms, m.isStatic = true ∧ m.Addressable) ∧
    utf8 long = ms.flatMap ofMember ++ utf8 short

/-- Members that are mistaken for an indentation have no text in them, not even a name. -/
theorem nameless_of_notMem {m : Member} (h : 0xff ∉ ofMember m) :
    ∃ modifiers, m = .other ⟨modifiers, none⟩ := by
  have htext : ∀ (before after : List UInt8) (s : String),
      0xff ∈ before ++ (text s ++ after) := fun before after s =>
    List.mem_append_right _ (List.mem_append_left _ (mem_text s))
  cases m with
  | field d =>
    rw [ofMember, List.append_assoc] at h
    exact absurd (htext _ _ d.type) h
  | property d =>
    rw [ofMember, List.append_assoc] at h
    exact absurd (htext _ _ d.type) h
  | method d =>
    rw [ofMember, List.append_assoc, List.append_assoc] at h
    exact absurd (htext _ _ d.returnType) h
  | other d =>
    obtain ⟨modifiers, name⟩ := d
    cases name with
    | none => exact ⟨modifiers, rfl⟩
    | some name =>
      have hlast := htext (word 3 ++ ofModifiers modifiers ++ word 1) [] name
      rw [List.append_nil, List.append_assoc] at hlast
      exact absurd hlast h

/-- Only the third character begins with the byte three. -/
theorem head_utf8EncodeChar {c : Char} {rest : List UInt8}
    (h : String.utf8EncodeChar c = 3 :: rest) : c = '\x03' := by
  have hmod : ∀ {n : Nat}, some (UInt8.ofNat n) = some 3 → n % 256 = 3 := by
    intro n hn
    simpa using congrArg UInt8.toNat (Option.some.inj hn)
  have hhead := congrArg List.head? h
  rw [List.head?_cons] at hhead
  unfold String.utf8EncodeChar at hhead
  dsimp only at hhead
  split at hhead
  · have hthree : c.val.toNat = 3 := by
      have := hmod hhead
      omega
    exact Char.toNat_inj.mp hthree
  · split at hhead
    · have := hmod hhead
      omega
    · split at hhead
      · have := hmod hhead
        omega
      · have := hmod hhead
        omega

/-- **An indentation that is mistaken for members begins with U+0003.** -/
theorem Surplus.head {long short : String} (h : Surplus long short) :
    long.toList.head? = some '\x03' := by
  obtain ⟨ms, hne, -, hbytes⟩ := h
  obtain ⟨m, ms, rfl⟩ := List.exists_cons_of_ne_nil hne
  have hm : 0xff ∉ ofMember m := by
    intro hmem
    refine notMem_utf8 long ?_
    rw [hbytes, List.flatMap_cons]
    exact List.mem_append_left _ (List.mem_append_left _ hmem)
  obtain ⟨modifiers, rfl⟩ := nameless_of_notMem hm
  have hfirst : (utf8 long).head? = some 3 := by
    rw [hbytes]
    rfl
  cases hlong : long.toList with
  | nil =>
    rw [utf8, hlong] at hfirst
    exact absurd hfirst (by simp)
  | cons c cs =>
    rw [utf8, hlong, List.flatMap_cons] at hfirst
    cases hc : String.utf8EncodeChar c with
    | nil => exact absurd hc String.utf8EncodeChar_ne_nil
    | cons b rest =>
      rw [hc, List.cons_append, List.head?_cons, Option.some.injEq] at hfirst
      subst hfirst
      rw [head_utf8EncodeChar hc, List.head?_cons]

/-! ## Uses of the marker -/

/-- What follows the uses of the marker is never the beginning of another use.  With a member, its
first byte is too small, and without one it is too short. -/
theorem usage_ne_members {usage : AttributeUsage} {e : Engine} (hpath : usage.path = e.markerPath)
    {ms ns : List Member} {a b : Configuration} {rest : List UInt8} :
    ms.flatMap ofMember ++ (utf8 a.layout.indent ++ tailOf a) ≠
      ofUsage usage ++ (rest ++ (ns.flatMap ofMember ++ (utf8 b.layout.indent ++ tailOf b))) := by
  intro h
  cases ms with
  | nil =>
    have htext : text a.layout.indent ++ (tailOf a).tail =
        text usage.path ++ (listOf ofArgument usage.named ++ (text usage.arguments ++
          (rest ++ (ns.flatMap ofMember ++ (utf8 b.layout.indent ++ tailOf b))))) := by
      simpa [ofUsage, text, tailOf] using h
    have hlen := congrArg List.length (delimits_text trivial trivial htext).2
    simp only [List.length_append, List.length_tail, length_tailOf, listOf, length_word, text,
      List.length_singleton] at hlen
    omega
  | cons m ms =>
    have hm : ∃ n, n < 4 ∧ (ofMember m).head? = some n := by
      cases m with
      | field d => exact ⟨0, by decide, rfl⟩
      | property d => exact ⟨1, by decide, rfl⟩
      | method d => exact ⟨2, by decide, rfl⟩
      | other d => exact ⟨3, by decide, rfl⟩
    have husage : (ofUsage usage).head? = some 0x43 := by
      rw [ofUsage, hpath]
      cases e <;> rfl
    obtain ⟨n, hn, hhead⟩ := hm
    have hfirst := congrArg List.head? h
    rw [List.flatMap_cons, List.append_assoc, List.head?_append, List.head?_append (l := ofUsage _),
      hhead, husage, Option.some_or, Option.some_or, Option.some.injEq] at hfirst
    rw [hfirst] at hn
    exact absurd hn (by decide)

/-- The uses of the marker are determined, although they are not preceded by their number. -/
theorem usages_eq {e : Engine} {xs ys : List AttributeUsage}
    (hx : ∀ u ∈ xs, u.Addressable ∧ u.path = e.markerPath)
    (hy : ∀ u ∈ ys, u.Addressable ∧ u.path = e.markerPath)
    {ms ns : List Member} {a b : Configuration}
    (h : xs.flatMap ofUsage ++ (ms.flatMap ofMember ++ (utf8 a.layout.indent ++ tailOf a)) =
      ys.flatMap ofUsage ++ (ns.flatMap ofMember ++ (utf8 b.layout.indent ++ tailOf b))) :
    xs = ys ∧ ms.flatMap ofMember ++ (utf8 a.layout.indent ++ tailOf a) =
      ns.flatMap ofMember ++ (utf8 b.layout.indent ++ tailOf b) := by
  rcases delimits_ofUsage.flatMap_append (fun u hu => (hx u hu).1) (fun u hu => (hy u hu).1) h with
    ⟨zs, rfl, hrest⟩ | ⟨zs, rfl, hrest⟩
  · cases zs with
    | nil => exact ⟨(List.append_nil xs).symm, hrest⟩
    | cons z zs =>
      rw [List.flatMap_cons, List.append_assoc] at hrest
      exact absurd hrest (usage_ne_members (hy z (by simp)).2)
  · cases zs with
    | nil => exact ⟨List.append_nil ys, hrest.symm⟩
    | cons z zs =>
      rw [List.flatMap_cons, List.append_assoc] at hrest
      exact absurd hrest (usage_ne_members (hx z (by simp)).2)

/-! ## Members and indentation -/

/-- **What members and indentation can be mistaken for.**  Either both are determined, or one
indentation has the surplus of the other side's members in front of it. -/
theorem members_eq_or_surplus {ms ns : List Member}
    (hm : ∀ m ∈ ms, m.isStatic = true ∧ m.Addressable)
    (hn : ∀ n ∈ ns, n.isStatic = true ∧ n.Addressable) {a b : Configuration}
    (h : ms.flatMap ofMember ++ (utf8 a.layout.indent ++ tailOf a) =
      ns.flatMap ofMember ++ (utf8 b.layout.indent ++ tailOf b)) :
    tailOf a = tailOf b ∧ (ms = ns ∧ a.layout.indent = b.layout.indent ∨
      Surplus a.layout.indent b.layout.indent ∨ Surplus b.layout.indent a.layout.indent) := by
  have hsplit : ∀ {a b : Configuration} {zs : List Member},
      utf8 a.layout.indent ++ tailOf a =
        zs.flatMap ofMember ++ (utf8 b.layout.indent ++ tailOf b) →
      utf8 a.layout.indent = zs.flatMap ofMember ++ utf8 b.layout.indent ∧
        tailOf a = tailOf b := by
    intro a b zs h
    rw [← List.append_assoc] at h
    exact List.append_inj' h (by rw [length_tailOf, length_tailOf])
  rcases delimits_ofMember.flatMap_append (fun m h => (hm m h).2) (fun n h => (hn n h).2) h with
    ⟨zs, rfl, hrest⟩ | ⟨zs, rfl, hrest⟩
  · obtain ⟨hindent, htail⟩ := hsplit hrest
    refine ⟨htail, ?_⟩
    by_cases hz : zs = []
    · subst hz
      exact Or.inl ⟨(List.append_nil ms).symm, utf8_inj hindent⟩
    · exact Or.inr (Or.inl ⟨zs, hz, fun z h => hn z (List.mem_append_right _ h), hindent⟩)
  · obtain ⟨hindent, htail⟩ := hsplit hrest
    refine ⟨htail.symm, ?_⟩
    by_cases hz : zs = []
    · subst hz
      exact Or.inl ⟨List.append_nil ns, (utf8_inj hindent).symm⟩
    · exact Or.inr (Or.inr ⟨zs, hz, fun z h => hm z (List.mem_append_right _ h), hindent⟩)

/-! ## The whole key -/

/-- The bytes of a key behind the engine. -/
def restOf (c : Candidate) (e : Engine) (a : Configuration) : List UInt8 :=
  (c.usagesOf e.markerPath).flatMap ofUsage ++
    ((c.members.filter Member.isStatic).flatMap ofMember ++ (utf8 a.layout.indent ++ tailOf a))

/-- **A key determines the scope, the header and the engine.** -/
theorem scope_of_eq {c d : Candidate} {e f : Engine} {a b : Configuration} (hc : c.Addressable)
    (hd : d.Addressable) (h : CacheKey.of c e a = CacheKey.of d f b) :
    c.within = d.within ∧ c.enclosing = d.enclosing ∧ c.header = d.header ∧ e = f ∧
      restOf c e a = restOf d f b := by
  have hspace : Delimits (fun _ => True) fun n : Namespace => text n.text := by
    rintro ⟨n⟩ ⟨m⟩ s t _ _ h
    obtain ⟨rfl, hrest⟩ := delimits_text trivial trivial h
    exact ⟨rfl, hrest⟩
  have hbytes := congrArg CacheKey.bytes h
  simp only [of, List.append_assoc, ofLayout_append] at hbytes
  obtain ⟨hwithin, h1⟩ := hspace.optional trivial trivial hbytes
  obtain ⟨henclosing, h2⟩ := delimits_ofHeader.listOf ⟨hc.enclosing_length, hc.enclosing⟩
    ⟨hd.enclosing_length, hd.enclosing⟩ h1
  obtain ⟨hheader, h3⟩ := delimits_ofHeader hc.header hd.header h2
  obtain ⟨hengine, h4⟩ := delimits_ofEngine trivial trivial h3
  exact ⟨hwithin, henclosing, hheader, hengine, h4⟩

/-- A key determines the name of the unit. -/
theorem qualifiedName_of_eq {c d : Candidate} {e f : Engine} {a b : Configuration}
    (hc : c.Addressable) (hd : d.Addressable) (h : CacheKey.of c e a = CacheKey.of d f b) :
    c.qualifiedName = d.qualifiedName ∧ e = f := by
  obtain ⟨hwithin, henclosing, hheader, hengine, -⟩ := scope_of_eq hc hd h
  refine ⟨?_, hengine⟩
  rw [Candidate.qualifiedName, Candidate.qualifiedName, Candidate.namespaceSegments,
    Candidate.namespaceSegments, Candidate.chain, Candidate.chain, hwithin, henclosing, hheader]

/-- Configurations that share an engine and agree in all that matters for a unit but the
indentation, where the first indentation has the bytes of some static members in front of those of
the second. -/
structure Confusable (a b : Configuration) : Prop where
  engine : ∃ e ∈ a.engines, e ∈ b.engines
  unresolved : a.unresolved = b.unresolved
  docComments : a.layout.docComments = b.layout.docComments
  header : a.layout.header = b.layout.header
  surplus : Surplus a.layout.indent b.layout.indent

/-- **Keys are only equal if the same is relevant**, or if the configurations can be confused. -/
theorem of_eq_of {c d : Candidate} {e f : Engine} {a b : Configuration} (hc : c.Addressable)
    (hd : d.Addressable) (he : e ∈ a.engines) (hf : f ∈ b.engines)
    (h : CacheKey.of c e a = CacheKey.of d f b) :
    (e = f ∧ c.relevantTo e = d.relevantTo e ∧ a.unresolved = b.unresolved ∧
      a.layout = b.layout) ∨ Confusable a b ∨ Confusable b a := by
  obtain ⟨hwithin, henclosing, hheader, rfl, hrest⟩ := scope_of_eq hc hd h
  have husage : ∀ {c : Candidate}, c.Addressable → ∀ u ∈ c.usagesOf e.markerPath,
      u.Addressable ∧ u.path = e.markerPath := by
    intro c hc u hu
    obtain ⟨hmem, hpath⟩ := List.mem_filter.mp hu
    exact ⟨hc.attributes u hmem, eq_of_beq hpath⟩
  have hmember : ∀ {c : Candidate}, c.Addressable → ∀ m ∈ c.members.filter Member.isStatic,
      m.isStatic = true ∧ m.Addressable := by
    intro c hc m hm
    obtain ⟨hmem, hstatic⟩ := List.mem_filter.mp hm
    exact ⟨hstatic, hc.members m hmem⟩
  obtain ⟨husages, hmembers⟩ := usages_eq (husage hc) (husage hd) hrest
  obtain ⟨htail, hcases⟩ := members_eq_or_surplus (hmember hc) (hmember hd) hmembers
  obtain ⟨hpolicy, hdocs, hbegin⟩ := tailOf_inj htail
  rcases hcases with ⟨hstatic, hindent⟩ | hsurplus | hsurplus
  · refine Or.inl ⟨rfl, ?_, hpolicy, ?_⟩
    · rw [Candidate.relevantTo, Candidate.relevantTo, husages, hstatic, hwithin, henclosing, hheader]
    · exact layout_eq hindent hdocs hbegin
  · exact Or.inr (Or.inl ⟨⟨e, he, hf⟩, hpolicy, hdocs, hbegin, hsurplus⟩)
  · exact Or.inr (Or.inr ⟨⟨e, hf, he⟩, hpolicy.symm, hdocs.symm, hbegin.symm, hsurplus⟩)

end CacheKey

end DataContract
