import DataContract.Proofs.Marker.Agreement
import DataContract.Proofs.Marker.MemberParsing

/-!
# The member that settings come from

The settings are given as a string or with `nameof`, for instance
`SettingsMember = (nameof(Program.Settings.Json))`, and an argument for a writer on the instance may
follow.  Whatever the access and the parentheses are, the settings are bound to the last name of the
access (`nameof_binds_last`).

The value is a text that names a member (`SpellsMember`), and what follows it is nothing, or an argument
for a writer (`FollowsSettings`).  The tokens are parsed as one item for each argument
(`MemberTokens.takes_item`, `InstanceWriterTokens.takes_item`), and each item sets its option
(`bindItem_settings`, `bindItem_instanceWriter`).
-/

namespace DataContract.Marker

open Declaration Lexer DataContract.Marker.Parser

/-! ## Texts -/

/-- White space between two tokens. -/
structure Gap where
  chars : List Char
  blank : Blank chars

/-- A text in pairs of parentheses with white space around each pair, the outermost one first. -/
def parenthesize (value : List Char) : List (Gap × Gap) → List Char
  | [] => value
  | (v, w) :: pairs => v.chars ++ '(' :: (parenthesize value pairs ++ ')' :: w.chars)

/-- What is written around the value of an argument for the settings: white space on both sides of the
option's name, and pairs of parentheses. -/
structure SettingsFrame where
  before : Gap
  behind : Gap
  parentheses : List (Gap × Gap)

/-- An argument for the settings with a given value. -/
def SettingsFrame.write (f : SettingsFrame) (value : List Char) : List Char :=
  f.before.chars ++ (Engine.settingsOption.toList ++
    (f.behind.chars ++ '=' :: parenthesize value f.parentheses))

/-- A call of `nameof`. -/
def nameofText (u v w : Gap) (access : List Char) : List Char :=
  u.chars ++ ("nameof".toList ++ (v.chars ++ '(' :: (access ++ ')' :: w.chars)))

/-- A string with white space around it. -/
def stringText (u w : Gap) (s : String) : List Char := u.chars ++ (quote s ++ w.chars)

/-- The tokens of an argument for a writer on the instance. -/
inductive InstanceWriterTokens : Bool → List Token → Prop
  | word : InstanceWriterTokens true [.ident Engine.instanceWriterOption false]
  | value {b : Bool} {value : Constant} {ts : List Token}
    (hvalue : value = .boolean b ∨ value = .string (truthText b))
    (h : ArgumentTokens ⟨Engine.instanceWriterOption, value⟩ ts) : InstanceWriterTokens b ts

/-- An argument says whether a writer on the instance is wanted: the option's name alone, with a truth
value, or with a string that spells one.  These tokens may be written in other ways too, for instance
with comments between them or with a raw string. -/
inductive SpellsInstanceWriter : Bool → List Char → Prop
  | word {v w : List Char} (hv : Blank v) (hw : Blank w) :
    SpellsInstanceWriter true (v ++ (Engine.instanceWriterOption.toList ++ w))
  | truth {b : Bool} {cs : List Char}
    (h : SpellsArgument ⟨Engine.instanceWriterOption, .boolean b⟩ cs) : SpellsInstanceWriter b cs
  | text {b : Bool} {cs : List Char}
    (h : SpellsArgument ⟨Engine.instanceWriterOption, .string (truthText b)⟩ cs) :
    SpellsInstanceWriter b cs
  | otherwise {b : Bool} {cs : List Char} {ts : List Token} (h : InstanceWriterTokens b ts)
    (hlexes : Lexes cs ts) : SpellsInstanceWriter b cs

/-- Behind an argument for the settings stands nothing, or a comma and an argument for a writer on the
instance. -/
inductive FollowsSettings : Bool → List Char → Prop
  | alone : FollowsSettings false []
  | writer {b : Bool} {cs : List Char} (h : SpellsInstanceWriter b cs) :
    FollowsSettings b (',' :: cs)

/-! ## Tokens -/

/-- The tokens behind an argument for the settings. -/
inductive FollowingTokens : Bool → List Token → Prop
  | alone : FollowingTokens false []
  | writer {b : Bool} {ts : List Token} (joint : Bool) (h : InstanceWriterTokens b ts) :
    FollowingTokens b (.punct ',' joint :: ts)

variable {s : String} {b : Bool} {value rest : List Char}

theorem SpellsMember.parenthesize (h : SpellsMember s value) (pairs : List (Gap × Gap)) :
    SpellsMember s (parenthesize value pairs) := by
  induction pairs with
  | nil => exact h
  | cons pair pairs ih => exact .paren pair.1.blank pair.2.blank ih

theorem SpellsInstanceWriter.lexes {cs : List Char} (h : SpellsInstanceWriter b cs) :
    ∃ ts, InstanceWriterTokens b ts ∧ Lexes cs ts := by
  have hname := anyIdent?_option .instanceWriter
  have hvalue : ∀ value, value ≠ .null → value = .boolean b ∨ value = .string (truthText b) →
      SpellsArgument ⟨Engine.instanceWriterOption, value⟩ cs →
      ∃ ts, InstanceWriterTokens b ts ∧ Lexes cs ts := by
    intro value hnull hvalue hspells
    obtain ⟨ts, hts, hlexes⟩ := hspells.lexes ⟨_, hname⟩ hnull closes_nil lexes_nil
    rw [List.append_nil, List.append_nil] at hlexes
    exact ⟨ts, .value hvalue hts, hlexes⟩
  cases h with
  | @word v w hv hw =>
    have hlexes := (lexes_nil.blank hw).identifier hname (closes_nil.blank hw).stops
    rw [List.append_nil] at hlexes
    exact ⟨_, .word, hlexes.blank hv⟩
  | truth h => exact hvalue _ Constant.noConfusion (Or.inl rfl) h
  | text h => exact hvalue _ Constant.noConfusion (Or.inr rfl) h
  | otherwise h hlexes => exact ⟨_, h, hlexes⟩

theorem FollowsSettings.lexes (h : FollowsSettings b rest) :
    Stops rest ∧ ∃ ts, FollowingTokens b ts ∧ Lexes rest ts := by
  cases h with
  | alone => exact ⟨closes_nil.stops, [], .alone, lexes_nil⟩
  | writer h =>
    obtain ⟨ts, hts, hlexes⟩ := h.lexes
    exact ⟨(closes_comma _).stops, _, .writer _ hts, hlexes.mark (by decide)⟩

/-- **The tokens of an argument for the settings**, and of what follows it. -/
theorem SettingsFrame.tokenize? (f : SettingsFrame) (hvalue : SpellsMember s value)
    (hrest : FollowsSettings b rest) :
    ∃ joint vs ts, MemberTokens s vs ∧ FollowingTokens b ts ∧
      tokenize? (String.ofList (f.write value ++ rest)) =
        some (.ident Engine.settingsOption false :: .punct '=' joint :: (vs ++ ts)) := by
  have hname : IsPlainName Engine.settingsOption := ⟨by decide +kernel, rfl⟩
  obtain ⟨hstops, ts, hts, hlexes⟩ := hrest.lexes
  obtain ⟨vs, hvs, hmember⟩ := (hvalue.parenthesize f.parentheses).lexes hstops hlexes
  have hequals := (hmember.mark (c := '=') (by decide)).blank f.behind.blank
  have hoption := (hequals.identifier hname.anyIdent?
    ((closes_equals _).blank f.behind.blank).stops).blank f.before.blank
  have hwritten : (String.ofList (f.write value ++ rest)).toList = f.before.chars ++
      (Engine.settingsOption.toList ++
        (f.behind.chars ++ '=' :: (Marker.parenthesize value f.parentheses ++ rest))) := by
    rw [String.toList_ofList, SettingsFrame.write]
    simp only [List.append_assoc, List.cons_append]
  rw [← hwritten] at hoption
  have hmark : (String.ofList (f.write value ++ rest)).toList.head? ≠ some byteOrderMark := by
    rw [hwritten]
    exact f.before.blank.head?_append (by decide)
      (head?_append_of_anyIdent? hname.anyIdent? (by decide +kernel) _)
  exact ⟨_, vs, ts, hvs, hts, tokenize?_of_lexes hoption hmark⟩

/-! ## Items -/

/-- A value that is no literal up to the end of the tokens is an expression. -/
theorem Grammar.takes_value_expression {g : Grammar} {ts behind : List Token} {e : Expr} {joint : Bool}
    (hliteral : ∀ l, literalAt? ts ≠ some (l, [])) (hmark : startsMark ['#'] ts = false)
    (h : Takes (g.expression true) ts e behind) :
    Takes g.value (.punct '=' joint :: ts) e behind := by
  have hequals : Takes (mark "=") (.punct '=' joint :: ts) () ts := takes_mark "=" rfl
  refine hequals.bind ((takes_rest ts).bind ?_)
  split
  · exact absurd ‹_› (hliteral _)
  · rw [hmark, Bool.false_and, if_neg Bool.false_ne_true]
    exact h

theorem MemberTokens.takes_value {vs behind : List Token} (h : MemberTokens s vs) {n : Nat}
    (hn : sizeOfTokens vs ≤ n) (joint : Bool) (hends : EndsValue behind) :
    ∃ e, settingsOf e = .ok s ∧
      Takes (Grammar.ofDepth (n + 1)).value (.punct '=' joint :: (vs ++ behind)) e behind := by
  obtain ⟨e, he, htakes⟩ := h.takes_expression hn
  have hexpression := htakes true behind hends
  cases h with
  | string =>
    simp only [sizeOfTokens, Token.size] at hn
    obtain ⟨n, rfl⟩ := Nat.exists_eq_add_one_of_ne_zero (n := n) (by omega)
    obtain ⟨e, he, htakes⟩ := (ValueTokens.string s).takes_value n joint hends
    obtain rfl := he.eq_literal rfl fun _ => Constant.noConfusion
    exact ⟨_, rfl, htakes⟩
  | nameof hnames hlast haccess =>
    refine ⟨e, he, Grammar.takes_value_expression (fun l hl => ?_) rfl hexpression⟩
    rw [List.cons_append, literalAt?_name isPlainName_nameof.2] at hl
    cases hl
  | paren h =>
    refine ⟨e, he, Grammar.takes_value_expression (fun l hl => ?_) rfl hexpression⟩
    cases hl

/-- The argument for the settings is one item. -/
theorem MemberTokens.takes_item {vs behind : List Token} (h : MemberTokens s vs) {n : Nat}
    (hn : sizeOfTokens vs ≤ n) (joint : Bool) (hends : EndsValue behind) :
    ∃ e, settingsOf e = .ok s ∧ Takes (Item.item (.ofDepth (n + 1)))
      (.ident Engine.settingsOption false :: .punct '=' joint :: (vs ++ behind))
      (.named Engine.settingsOption (.value e)) behind := by
  obtain ⟨e, he, htakes⟩ := h.takes_value hn joint hends
  exact ⟨e, he, Marker.takes_item Engine.settingsOption false htakes⟩

/-- The argument for a writer on the instance is one item, which gives its value. -/
theorem InstanceWriterTokens.takes_item {ts : List Token} (h : InstanceWriterTokens b ts) (n : Nat) :
    ∃ body, MarkerOption.valueOf .instanceWriter body = .ok b ∧
      Takes (Item.item (.ofDepth (n + 2))) ts (.named Engine.instanceWriterOption body) [] := by
  cases h with
  | word =>
    have hbody : Takes (Item.body (.ofDepth (n + 2))) [] .word [] :=
      (takes_rest []).bind (takes_pure _ _)
    refine ⟨.word, rfl, (takes_rest _).bind ?_⟩
    rw [literalAt?_name (by decide)]
    exact (takes_nameParts _ _ rfl).bind (hbody.bind (takes_pure _ _))
  | @value _ value _ hvalue harguments =>
    obtain ⟨_, @⟨_, _, name, raw, e, hname, hreads⟩, htakes⟩ := harguments.takes_item n (Or.inl rfl)
    rw [List.append_nil] at htakes
    have hliteral : e = .literal (.boolean b) ∨ e = .literal (.string (truthText b)) := by
      rcases hvalue with rfl | rfl
      · exact Or.inl (hreads.eq_literal rfl fun _ => Constant.noConfusion)
      · exact Or.inr (hreads.eq_literal rfl fun _ => Constant.noConfusion)
    have hoption := Option.some.inj (hname.symm.trans (anyIdent?_option .instanceWriter))
    obtain ⟨rfl, rfl⟩ := Token.ident.inj (Prod.mk.inj hoption).1
    exact ⟨.value e, instanceWriterOf_eq_ok_iff.mpr hliteral, htakes⟩

/-! ## Binding -/

theorem sizeOfTokens_append (ts us : List Token) :
    sizeOfTokens (ts ++ us) = sizeOfTokens ts + sizeOfTokens us := by
  induction ts with
  | nil => rw [List.nil_append, sizeOfTokens, Nat.zero_add]
  | cons t ts ih => rw [List.cons_append, sizeOfTokens, sizeOfTokens, ih, Nat.add_assoc]

/-- The argument for the settings sets them, and leaves the other option as it is by default. -/
theorem bindItem_settings {e : Expr} (he : settingsOf e = .ok s) :
    BindingState.bindItem .start (.named Engine.settingsOption (.value e)) =
      ⟨⟨some s, false⟩, [.settings], []⟩ := by
  have hv : MarkerOption.valueOf .settings (.value e) = .ok (some s) := by
    rw [MarkerOption.valueOf, he]
    rfl
  exact bindItem_of_valueOf List.not_mem_nil hv

/-- Then the argument for a writer on the instance sets that option. -/
theorem bindItem_instanceWriter {body : ItemBody}
    (hbody : MarkerOption.valueOf .instanceWriter body = .ok b) :
    BindingState.bindItem ⟨⟨some s, false⟩, [.settings], []⟩
      (.named Engine.instanceWriterOption body) =
        ⟨⟨some s, b⟩, [.instanceWriter, .settings], []⟩ :=
  bindItem_of_valueOf (by simp) hbody

theorem InstanceWriterTokens.ne_nil {ts : List Token} (h : InstanceWriterTokens b ts) : ts ≠ [] := by
  cases h with
  | word => exact List.cons_ne_nil _ _
  | value hvalue h =>
    cases h
    exact List.cons_ne_nil _ _

/-- **The tokens of the arguments are parsed** as items that bind to the member and the truth value. -/
theorem MemberTokens.bindItems {vs ts : List Token} (hvs : MemberTokens s vs)
    (hts : FollowingTokens b ts) (joint : Bool) :
    ∃ items, Item.listOf (.ident Engine.settingsOption false :: .punct '=' joint :: (vs ++ ts)) =
      .ok items ∧ bindItems items = .ok ⟨some s, b⟩ := by
  have hsize : sizeOfTokens vs ≤ 2 * sizeOfTokens (.ident Engine.settingsOption false ::
      .punct '=' joint :: (vs ++ ts)) + 1 := by
    rw [sizeOfTokens, sizeOfTokens, sizeOfTokens_append]
    omega
  cases hts with
  | alone =>
    obtain ⟨e, he, htakes⟩ := hvs.takes_item hsize joint (Or.inl rfl)
    exact ⟨_, (Separated.last (List.cons_ne_nil _ _) htakes).takes_commaList.run,
      congrArg BindingState.result (bindItem_settings he)⟩
  | @writer _ ts comma hwriter =>
    obtain ⟨e, he, hfirst⟩ := hvs.takes_item hsize joint (endsValue_comma comma ts)
    obtain ⟨body, hbody, hsecond⟩ := hwriter.takes_item (2 * sizeOfTokens
      (.ident Engine.settingsOption false :: .punct '=' joint :: (vs ++ .punct ',' comma :: ts)))
    have hlength : ts.length < (Token.ident Engine.settingsOption false :: .punct '=' joint ::
        (vs ++ .punct ',' comma :: ts)).length := by
      simp only [List.length_cons, List.length_append]
      omega
    have hitems := Separated.more hlength hfirst (.last hwriter.ne_nil hsecond)
    refine ⟨_, hitems.takes_commaList.run, ?_⟩
    rw [Marker.bindItems, List.foldl_cons, List.foldl_cons, List.foldl_nil, bindItem_settings he,
      bindItem_instanceWriter hbody]
    rfl

/-- An argument for the settings binds to the member that its value names, and what follows it to its
truth value. -/
theorem bindUsageFor?_write (f : SettingsFrame) (hvalue : SpellsMember s value)
    (hrest : FollowsSettings b rest) (e : Engine) :
    bindUsageFor? ⟨e.markerPath, [], String.ofList (f.write value ++ rest)⟩ e =
      .ok (some ⟨some s, b⟩) := by
  obtain ⟨joint, vs, ts, hvs, hts, htokens⟩ := f.tokenize? hvalue hrest
  obtain ⟨items, hlist, hitems⟩ := hvs.bindItems hts joint
  have hbind : bindUsage ⟨e.markerPath, [], String.ofList (f.write value ++ rest)⟩ =
      .ok ⟨some s, b⟩ :=
    bindUsage_eq_ok_iff.mpr ⟨items, .written rfl htokens hlist, hitems⟩
  exact bindUsageFor?_eq_ok_iff.mpr (Or.inl ⟨beq_self_eq_true e.markerPath, _, hbind, rfl⟩)

/-- **An access binds the settings to its last name**, whatever parentheses stand around the call of
`nameof` and whether or not an argument for a writer on the instance follows.  It is as if the last name
had been written as a string in the same place. -/
theorem nameof_binds_last {names : List String} (hne : names ≠ [])
    (hnames : ∀ name ∈ names, IsPlainName name) :
    (∃ access, SpellsAccess names access) ∧
      ∀ access, SpellsAccess names access → ∀ (u v w : Gap) (f : SettingsFrame) (b : Bool)
        (rest : List Char), FollowsSettings b rest → ∀ e : Engine,
          bindUsageFor? ⟨e.markerPath, [],
            String.ofList (f.write (nameofText u v w access) ++ rest)⟩ e =
              .ok (some ⟨some (names.getLast hne), b⟩) ∧
          bindUsageFor? ⟨e.markerPath, [],
            String.ofList (f.write (stringText u w (names.getLast hne)) ++ rest)⟩ e =
              .ok (some ⟨some (names.getLast hne), b⟩) := by
  refine ⟨exists_spellsAccess hne, fun access haccess u v w f b rest hrest e => ⟨?_, ?_⟩⟩
  · have hlast := List.getLast?_eq_getLast_of_ne_nil hne
    exact bindUsageFor?_write f (.nameof u.blank v.blank w.blank hnames hlast haccess) hrest e
  · exact bindUsageFor?_write f (.string u.blank w.blank) hrest e

/-- White space in front of the option's name and behind it, and two pairs of parentheses. -/
def spacedFrame : SettingsFrame where
  before := ⟨['\t'], by decide⟩
  behind := ⟨[' '], by decide⟩
  parentheses := [(⟨[' '], by decide⟩, ⟨[], blank_nil⟩), (⟨[], blank_nil⟩, ⟨['\n'], by decide⟩)]

/-- An access over two lines binds the settings to its last name, with a writer on the instance. -/
theorem nameof_binds_last_spaced :
    (∀ name ∈ ["Program", "Settings", "Json"], IsPlainName name) ∧
      SpellsAccess ["Program", "Settings", "Json"] "Program . Settings.\n Json".toList ∧
      FollowsSettings true ", ImplementInstanceWriteMethod".toList ∧
      bindUsageFor? ⟨Engine.json.markerPath, [],
        "\tSettingsMember = ((nameof(Program . Settings.\n Json))\n), ImplementInstanceWriteMethod"⟩
          .json = .ok (some ⟨some "Json", true⟩) := by
  have hnames : ∀ name ∈ ["Program", "Settings", "Json"], IsPlainName name := by
    decide +kernel
  have hspace : Blank [' '] := by decide
  have hline : Blank ['\n', ' '] := by decide
  have haccess : SpellsAccess ["Program", "Settings", "Json"]
      "Program . Settings.\n Json".toList :=
    .more blank_nil hspace (.more hspace blank_nil (.one hline blank_nil))
  have hrest : FollowsSettings true ", ImplementInstanceWriteMethod".toList :=
    .writer (.word hspace blank_nil)
  have hbind := ((nameof_binds_last (List.cons_ne_nil _ _) hnames).2 _ haccess ⟨[], blank_nil⟩
    ⟨[], blank_nil⟩ ⟨[], blank_nil⟩ spacedFrame true _ hrest .json).1
  exact ⟨hnames, haccess, hrest, hbind⟩

end DataContract.Marker
