import DataContract.Declaration.Decode
import DataContract.Declaration.Encode
import DataContract.Host.Directory
import DataContract.Proofs.Declaration.Keywords
import DataContract.Proofs.Document.Json.RoundTrip
import DataContract.Proofs.Document.Record

/-!
# Declarations and their documents

What is written for a declaration leaves out lists that are empty and a namespace that is missing,
mixes the header of a candidate with the rest, and names the sort of a member among its entries.
Nothing is lost by that: every declaration is taken back from its document, whatever its strings,
however often a modifier is repeated, and whether or not it has a namespace.

* `Candidate.plain_encode` --- the document of a candidate is plain, and its lists and tables stand
  at most five deep inside one another, so its text is read as that document.
* `Member.decode_sort` --- the entries of a member are set aside until its sort is known, and then
  decoded as such a member.
* `Candidate.puts_strays` --- the entries for the header of a candidate are set aside in reverse, and
  are put in order again before they are decoded.
* `Candidate.inverts` --- so a candidate is decoded from its document, and `Candidate.json_round_trip`
  says what this means for texts.
-/

namespace DataContract.Declaration

open DataContract.Document

/-! ## What is written is plain -/

section Plain

/-- A list of plain documents is plain. -/
theorem plain_array {α : Type} {height : Nat} {write : α → Value}
    (hwrite : ∀ a, (write a).Plain height) (as : List α) :
    (Value.array (as.map write)).Plain (height + 1) := by
  refine .array fun v hv => ?_
  obtain ⟨a, -, rfl⟩ := List.mem_map.mp hv
  exact hwrite a

theorem plain_texts (items : List String) : (Value.texts items).Plain 1 :=
  plain_array (fun s => .string s) items

/-- An entry for a list is plain if there is one. -/
theorem plain_unlessEmpty {α : Type} {height : Nat} {write : α → Value}
    (hwrite : ∀ a, (write a).Plain height) (name : String) (as : List α) :
    ∀ e ∈ unlessEmpty name (as.map write), e.2.Plain (height + 1) := by
  intro e he
  rw [unlessEmpty] at he
  split at he
  · exact absurd he List.not_mem_nil
  · rw [List.mem_singleton] at he
    rw [he]
    exact plain_array hwrite as

theorem Modifiers.plain_encode (ms : Modifiers) : ms.encode.Plain 1 := plain_texts _

theorem Constant.plain_encode (k : Constant) : k.encode.Plain 0 := by
  cases k with
  | null => exact .null
  | boolean b => exact .boolean b
  | integer n => exact .integer ⟨n.le_toInt, Int.lt_trans n.toInt_lt (by decide)⟩
  | string s => exact .string s

theorem NamedArgument.plain_encode (a : NamedArgument) : a.encode.Plain 1 := by
  refine .object ?_
  simp only [List.forall_mem_cons]
  exact ⟨.string _, a.value.plain_encode, fun _ h => nomatch h⟩

theorem AttributeUsage.plain_encode (usage : AttributeUsage) : usage.encode.Plain 3 := by
  refine .object ?_
  rw [List.cons_append]
  simp only [List.forall_mem_cons, List.forall_mem_append]
  refine ⟨.string _, plain_unlessEmpty NamedArgument.plain_encode _ _, ?_⟩
  split
  · exact fun _ h => nomatch h
  · simp only [List.forall_mem_singleton]
    exact .string _

theorem Parameter.plain_encode (p : Parameter) : p.encode.Plain 1 := by
  refine .object ?_
  simp only [List.forall_mem_cons]
  exact ⟨.string _, .string _, fun _ h => nomatch h⟩

theorem Member.plain_encode (m : Member) : m.encode.Plain 3 := by
  cases m with
  | field d =>
    refine .object ?_
    simp only [List.forall_mem_cons]
    exact ⟨.string _, d.modifiers.plain_encode.mono (by decide), .string _,
      (plain_texts _).mono (by decide), fun _ h => nomatch h⟩
  | property d =>
    refine .object ?_
    simp only [List.forall_mem_cons]
    exact ⟨.string _, d.modifiers.plain_encode.mono (by decide), .string _, .string _,
      fun _ h => nomatch h⟩
  | method d =>
    refine .object ?_
    simp only [List.forall_mem_cons]
    exact ⟨.string _, d.modifiers.plain_encode.mono (by decide), .string _, .string _,
      plain_array Parameter.plain_encode _, fun _ h => nomatch h⟩
  | other d =>
    refine .object ?_
    simp only [List.forall_mem_cons]
    refine ⟨.string _, d.modifiers.plain_encode.mono (by decide), ?_, fun _ h => nomatch h⟩
    cases d.name with
    | none => exact .null
    | some s => exact .string s

theorem TypeHeader.plain_entries (h : TypeHeader) : ∀ e ∈ h.entries, e.2.Plain 1 := by
  rw [entries]
  simp only [List.forall_mem_cons, List.forall_mem_append]
  exact ⟨⟨.string _, .string _, h.modifiers.plain_encode, fun _ h => nomatch h⟩,
    plain_unlessEmpty (fun s => .string s) _ _⟩

theorem TypeHeader.plain_encode (h : TypeHeader) : h.encode.Plain 2 := .object h.plain_entries

/-- **What is written for a candidate is plain.** -/
theorem Candidate.plain_encode (c : Candidate) : c.encode.Plain 5 := by
  refine .object ?_
  simp only [List.forall_mem_append]
  refine ⟨⟨⟨⟨fun e he => (c.header.plain_entries e he).mono (by decide),
    plain_unlessEmpty AttributeUsage.plain_encode _ _⟩,
    plain_unlessEmpty Member.plain_encode _ _⟩,
    plain_unlessEmpty (fun h => h.plain_encode.mono (by decide)) _ _⟩, ?_⟩
  cases c.within with
  | none => exact fun _ h => nomatch h
  | some n =>
    rw [Namespace.entry, List.forall_mem_singleton]
    exact .string _

end Plain

/-! ## Scalars and lists -/

open Decoder

/-- Modifiers are taken back from their names, which are their keywords. -/
theorem Modifiers.inverts : Modifiers.decode.Inverts Modifiers.encode := by
  intro form ms
  have hitems : ((ms.map Modifier.keyword).map Value.string).mapM Modifier.ofItem? = some ms :=
    Modifiers.mapM_ofItem?_eq_some_iff.mpr rfl
  rw [Modifiers.decode, ms.plain_encode.retain, Modifiers.encode_eq, Value.texts]
  dsimp only [bind, Except.bind]
  rw [hitems]

theorem Constant.inverts : Constant.decode.Inverts Constant.encode := by
  intro form k
  rw [Constant.decode, k.plain_encode.retain]
  cases k with
  | null => rfl
  | boolean b => rfl
  | integer n =>
    have hfits : fitsWord n.toInt = true := by
      rw [fitsWord, Bool.and_eq_true, decide_eq_true_eq, decide_eq_true_eq]
      exact ⟨n.le_toInt, n.toInt_lt⟩
    show (if fitsWord n.toInt then Except.ok (Constant.integer (Int64.ofInt n.toInt)) else _) = _
    rw [if_pos hfits, Int64.ofInt_toInt]
  | string s => rfl

/-- A list that is left out if it is empty is taken back by a field that is empty to begin with. -/
theorem puts_unlessEmpty {α β : Type} {r : Record α} {form : Form} {name : String} {d : Decoder β}
    {set : List β → α → α} {write : β → Value}
    (hfield : (r.field? name).map Field.put =
      some fun form v a => (set · a) <$> Decoder.listOf d form v)
    (hd : d.Inverts write) (bs : List β) {a : α} (ha : set [] a = a)
    (entries : List (String × Value)) :
    r.puts form (unlessEmpty name (bs.map write) ++ entries) a =
      r.puts form entries (set bs a) := by
  cases bs with
  | nil => rw [ha]; rfl
  | cons b bs => exact Record.puts_cons (Record.put_field hfield hd.listOf (b :: bs) a) entries

/-- The name of an entry that may be left out. -/
theorem names_unlessEmpty (name : String) (items : List Value) :
    ((unlessEmpty name items).map (·.1)).Sublist [name] := by
  rw [unlessEmpty]
  split
  · exact List.nil_sublist _
  · exact List.Sublist.refl _

/-! ## Attributes -/

theorem NamedArgument.inverts : NamedArgument.asRecord.decode.Inverts NamedArgument.encode := by
  intro form a
  refine Record.ofEntries_of_puts (by simp) ?_ (by simp [asRecord, Field.due])
  rw [Record.puts_cons (Record.put_field rfl inverts_text a.name _),
    Record.puts_cons (Record.put_field rfl Constant.inverts a.value _)]
  rfl

theorem AttributeUsage.inverts : AttributeUsage.decode.Inverts AttributeUsage.encode := by
  intro form usage
  have hnames : ((("path", Value.string usage.path) ::
      unlessEmpty "named" (usage.named.map NamedArgument.encode) ++
        if usage.arguments.isEmpty then [] else [("arguments", Value.string usage.arguments)]).map
          (·.1)).Sublist ["path", "named", "arguments"] := by
    rw [List.cons_append, List.map_cons, List.map_append]
    refine (((names_unlessEmpty "named" _).append ?_)).cons_cons "path"
    split
    · exact List.nil_sublist ["arguments"]
    · exact List.Sublist.refl ["arguments"]
  refine Record.ofEntries_of_puts (hnames.nodup (by decide)) ?_
    (by simp [asRecord, Field.due, Field.optional])
  rw [List.cons_append, Record.puts_cons (Record.put_field rfl inverts_text usage.path _),
    puts_unlessEmpty rfl NamedArgument.inverts usage.named rfl]
  split
  · rename_i hempty
    obtain ⟨path, named, arguments⟩ := usage
    obtain rfl : arguments = "" := String.isEmpty_iff.mp hempty
    rfl
  · rw [Record.puts_cons (Record.put_field rfl inverts_text usage.arguments _)]
    rfl

/-! ## Members -/

theorem Parameter.inverts : Parameter.asRecord.decode.Inverts Parameter.encode := by
  intro form p
  refine Record.ofEntries_of_puts (by simp) ?_ (by simp [asRecord, Field.due])
  rw [Record.puts_cons (Record.put_field rfl inverts_text p.type _),
    Record.puts_cons (Record.put_field rfl inverts_text p.name _)]
  rfl

theorem FieldDeclaration.decode_entries (d : FieldDeclaration) (form : Form) :
    asRecord.ofEntries form [("modifiers", d.modifiers.encode), ("ty", .string d.type),
      ("variables", Value.texts d.names)] none = .ok d := by
  refine Record.ofEntries_of_puts (by simp) ?_ (by simp [asRecord, Field.due, Field.optional])
  rw [Record.puts_cons (Record.put_field rfl Modifiers.inverts d.modifiers _),
    Record.puts_cons (Record.put_field rfl inverts_text d.type _),
    Record.puts_cons (Record.put_field rfl inverts_texts d.names _)]
  rfl

theorem PropertyDeclaration.decode_entries (d : PropertyDeclaration) (form : Form) :
    asRecord.ofEntries form [("modifiers", d.modifiers.encode), ("ty", .string d.type),
      ("name", .string d.name)] none = .ok d := by
  refine Record.ofEntries_of_puts (by simp) ?_ (by simp [asRecord, Field.due, Field.optional])
  rw [Record.puts_cons (Record.put_field rfl Modifiers.inverts d.modifiers _),
    Record.puts_cons (Record.put_field rfl inverts_text d.type _),
    Record.puts_cons (Record.put_field rfl inverts_text d.name _)]
  rfl

theorem MethodDeclaration.decode_entries (d : MethodDeclaration) (form : Form) :
    asRecord.ofEntries form [("modifiers", d.modifiers.encode),
      ("return_type", .string d.returnType), ("name", .string d.name),
      ("parameters", .array (d.parameters.map Parameter.encode))] none = .ok d := by
  refine Record.ofEntries_of_puts (by simp) ?_ (by simp [asRecord, Field.due, Field.optional])
  rw [Record.puts_cons (Record.put_field rfl Modifiers.inverts d.modifiers _),
    Record.puts_cons (Record.put_field rfl inverts_text d.returnType _),
    Record.puts_cons (Record.put_field rfl inverts_text d.name _),
    Record.puts_cons (Record.put_field rfl Parameter.inverts.listOf d.parameters _)]
  rfl

theorem OtherDeclaration.decode_entries (d : OtherDeclaration) (form : Form) :
    asRecord.ofEntries form [("modifiers", d.modifiers.encode),
      ("name", Value.optionalText d.name)] none = .ok d := by
  refine Record.ofEntries_of_puts (by simp) ?_ (by simp [asRecord, Field.optional])
  rw [Record.puts_cons (Record.put_field rfl Modifiers.inverts d.modifiers _),
    Record.puts_cons (Record.put_field rfl inverts_optional_text d.name _)]
  rfl

/-- Entries that do not name the sort of a member are set aside. -/
theorem Member.separate_others (form : Form) (sort : Option MemberSort) {height : Nat}
    {entries : List (String × Value)} (hplain : ∀ e ∈ entries, e.2.Plain height)
    (htag : ∀ e ∈ entries, e.1 ≠ MemberSort.tag) :
    separate form entries sort = .ok (sort, entries) := by
  induction entries with
  | nil => rfl
  | cons e entries ih =>
    rw [List.forall_mem_cons] at hplain htag
    rw [separate, if_neg htag.1, hplain.1.retain]
    show (separate form entries sort >>= fun _ => _) = _
    rw [ih hplain.2 htag.2]
    rfl

/-- A table that begins with the sort is decoded as a member of that sort. -/
theorem Member.decode_sort {form : Form} (sort : MemberSort) {name : String}
    (hsort : MemberSort.named.lookup name = some sort) {height : Nat}
    {entries : List (String × Value)}
    (hplain : (Value.object ((MemberSort.tag, .string name) :: entries)).Plain (height + 1))
    (htag : ∀ e ∈ entries, e.1 ≠ MemberSort.tag) {m : Member}
    (hbody : sort.decodeBody (.object entries) = .ok m) :
    decode form (.object ((MemberSort.tag, .string name) :: entries)) = .ok m := by
  have hdecode : MemberSort.decode form (.string name) = .ok sort := by
    rw [MemberSort.decode, pick, hsort]
  rw [decode, separate, if_pos rfl, hdecode]
  show (separate form entries (some sort) >>= fun _ => _) = _
  rw [separate_others form (some sort) (List.forall_mem_cons.mp hplain.forall_mem).2 htag]
  exact hbody

theorem Member.inverts : Member.decode.Inverts Member.encode := by
  intro form m
  have hplain := m.plain_encode
  cases m with
  | field d =>
    exact decode_sort .field rfl hplain (by simp [MemberSort.tag])
      (congrArg (Member.field <$> ·) (d.decode_entries .retained))
  | property d =>
    exact decode_sort .property rfl hplain (by simp [MemberSort.tag])
      (congrArg (Member.property <$> ·) (d.decode_entries .retained))
  | method d =>
    exact decode_sort .method rfl hplain (by simp [MemberSort.tag])
      (congrArg (Member.method <$> ·) (d.decode_entries .retained))
  | other d =>
    exact decode_sort .other rfl hplain (by simp [MemberSort.tag])
      (congrArg (Member.other <$> ·) (d.decode_entries .retained))

/-! ## Types -/

/-- The names of the entries for a type header. -/
theorem TypeHeader.names_entries (h : TypeHeader) :
    (h.entries.map (·.1)).Sublist ["name", "kind", "modifiers", "type_parameters"] := by
  rw [entries, List.map_append]
  exact (List.Sublist.refl ["name", "kind", "modifiers"]).append
    (names_unlessEmpty "type_parameters" _)

/-- A type header is taken back from its entries, wherever they have been found. -/
theorem TypeHeader.decode_entries (h : TypeHeader) (form : Form) :
    asRecord.ofEntries form h.entries none = .ok h := by
  have hkind : (Decoder.choice TypeKind.named).Inverts fun k => .string k.name :=
    inverts_choice fun k => by cases k <;> rfl
  refine Record.ofEntries_of_puts (h.names_entries.nodup (by decide)) ?_
    (by simp [asRecord, Field.due, Field.optional, entries])
  rw [entries, List.cons_append, Record.puts_cons (Record.put_field rfl inverts_text h.name _),
    List.cons_append, Record.puts_cons (Record.put_field rfl hkind h.kind _),
    List.cons_append, Record.puts_cons (Record.put_field rfl Modifiers.inverts h.modifiers _),
    List.nil_append, ← List.append_nil (unlessEmpty ..),
    puts_unlessEmpty rfl inverts_text h.typeParameters rfl]
  rfl

theorem TypeHeader.inverts : TypeHeader.decode.Inverts TypeHeader.encode :=
  fun form h => h.decode_entries form

/-- Entries that are none of a candidate's own are set aside, the last one first. -/
theorem Candidate.puts_strays {form : Form} {height : Nat} {entries : List (String × Value)}
    (hplain : ∀ e ∈ entries, e.2.Plain height)
    (hstray : ∀ e ∈ entries, (asRecord.field? e.1).isNone) (others : List (String × Value))
    (c : Candidate) (kept : List (String × Value)) :
    asRecord.puts form (entries ++ others) (c, kept) =
      asRecord.puts form others (c, entries.reverse ++ kept) := by
  induction entries generalizing kept with
  | nil => rfl
  | cons e entries ih =>
    rw [List.forall_mem_cons] at hplain hstray
    have hput : asRecord.put form (c, kept) e = .ok (c, e :: kept) := by
      rw [Record.put, Option.isNone_iff_eq_none.mp hstray.1]
      show (Decoder.retain e.2 >>= fun v => _) = _
      rw [hplain.1.retain]
      rfl
    rw [List.cons_append, Record.puts_cons hput, ih hplain.2 hstray.2, List.reverse_cons,
      List.append_assoc, List.singleton_append]

/-- No entry for its header is one of a candidate's own. -/
theorem Candidate.isNone_field?_header (h : TypeHeader) :
    ∀ e ∈ h.entries, (asRecord.field? e.1).isNone := by
  intro e he
  have hname := h.names_entries.subset (List.mem_map_of_mem he)
  have hall : ∀ name ∈ ["name", "kind", "modifiers", "type_parameters"],
      (asRecord.field? name).isNone := by
    intro name hname
    simp only [List.mem_cons, List.not_mem_nil, or_false] at hname
    rcases hname with rfl | rfl | rfl | rfl <;> rfl
  exact hall _ hname

/-- The names of the entries for a candidate. -/
theorem Candidate.names_entries (c : Candidate) :
    ((c.header.entries ++
      unlessEmpty "attributes" (c.attributes.map AttributeUsage.encode) ++
      unlessEmpty "members" (c.members.map Member.encode) ++
      unlessEmpty "containing_types" (c.enclosing.map TypeHeader.encode) ++
      Namespace.entry c.within).map (·.1)).Sublist
        ["name", "kind", "modifiers", "type_parameters", "attributes", "members",
          "containing_types", "namespace"] := by
  have hnamespace : ((Namespace.entry c.within).map (·.1)).Sublist ["namespace"] := by
    cases c.within with
    | none => exact List.nil_sublist _
    | some n => exact List.Sublist.refl _
  simp only [List.map_append]
  exact ((((c.header.names_entries.append (names_unlessEmpty "attributes" _)).append
    (names_unlessEmpty "members" _)).append (names_unlessEmpty "containing_types" _)).append
    hnamespace)

/-- **A candidate is taken back from its document.** -/
theorem Candidate.inverts : Candidate.decode.Inverts Candidate.encode := by
  intro form c
  have hown : asRecord.ofEntries form
      (c.header.entries ++
        unlessEmpty "attributes" (c.attributes.map AttributeUsage.encode) ++
        unlessEmpty "members" (c.members.map Member.encode) ++
        unlessEmpty "containing_types" (c.enclosing.map TypeHeader.encode) ++
        Namespace.entry c.within) none =
      .ok ({ c with header := .ofName .class_ "" }, c.header.entries.reverse) := by
    refine Record.ofEntries_of_puts (c.names_entries.nodup (by decide)) ?_
      (by simp [asRecord, Field.optional])
    have hblank : asRecord.blank = (ofHeader (.ofName .class_ ""), []) := rfl
    rw [hblank, List.append_assoc, List.append_assoc, List.append_assoc,
      puts_strays c.header.plain_entries (isNone_field?_header c.header),
      puts_unlessEmpty rfl AttributeUsage.inverts c.attributes rfl,
      puts_unlessEmpty rfl Member.inverts c.members rfl,
      puts_unlessEmpty rfl TypeHeader.inverts c.enclosing rfl, List.append_nil]
    obtain ⟨header, attributes, members, enclosing, within⟩ := c
    cases within <;> rfl
  -- The entries for the header are in order again when they are decoded in their turn.
  rw [encode, decode, hown]
  show (TypeHeader.asRecord.ofEntries .retained c.header.entries.reverse.reverse none >>=
    fun _ => _) = _
  rw [List.reverse_reverse, c.header.decode_entries]
  rfl

/-! ## Snapshots -/

namespace Candidate

/-- The text of a candidate. -/
def toJson (c : Candidate) : String := Json.write c.encode

/-- The candidate that a text is read as. -/
def ofJson (s : String) : Except Mismatch Candidate := (Json.read s).decode decode

/-- The text of a snapshot of candidates. -/
def snapshotText (cs : List Candidate) : String := Json.write (.array (cs.map encode))

/-- The text of a snapshot, written again from the candidates that it is read as. -/
def canonicalSnapshot (s : String) : Except OpenError String :=
  snapshotText <$> DirectoryHost.snapshot s

theorem ofJson_toJson (c : Candidate) : ofJson c.toJson = .ok c := by
  rw [ofJson, toJson, Json.read_write (by decide) c.plain_encode, Json.Reading.decode,
    Candidate.inverts]
  rfl

theorem snapshot_snapshotText (cs : List Candidate) :
    DirectoryHost.snapshot (snapshotText cs) = .ok cs := by
  have hplain : (Value.array (cs.map encode)).Plain 6 := plain_array plain_encode cs
  rw [DirectoryHost.snapshot, snapshotText, Json.read_write (by decide) hplain, Json.Reading.decode,
    Candidate.inverts.listOf]
  rfl

/-- **Candidates survive being written and read.**  A candidate is read back from its text and
decoded from its document, in whatever form that is at hand, and so are the candidates of a snapshot.
Writing the candidates of an accepted snapshot again therefore gives a text that is read as the same
candidates, and that does not change when this is repeated. -/
theorem json_round_trip :
    (∀ c, ofJson (toJson c) = .ok c) ∧ (∀ form c, decode form (encode c) = .ok c) ∧
      (∀ cs, DirectoryHost.snapshot (snapshotText cs) = .ok cs) ∧
      ∀ s, (canonicalSnapshot s >>= DirectoryHost.snapshot) = DirectoryHost.snapshot s ∧
        (canonicalSnapshot s >>= canonicalSnapshot) = canonicalSnapshot s := by
  refine ⟨ofJson_toJson, Candidate.inverts, snapshot_snapshotText, fun s => ?_⟩
  rw [canonicalSnapshot]
  cases DirectoryHost.snapshot s with
  | error error => exact ⟨rfl, rfl⟩
  | ok cs =>
    refine ⟨snapshot_snapshotText cs, ?_⟩
    show canonicalSnapshot (snapshotText cs) = .ok (snapshotText cs)
    rw [canonicalSnapshot, snapshot_snapshotText]
    rfl

end Candidate

end DataContract.Declaration
