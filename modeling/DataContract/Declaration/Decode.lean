import DataContract.Declaration.Candidate
import DataContract.Document.Decoder

/-!
# Declarations from documents

How a document is decoded as a declaration.

Two types stand out.  A member is a table that names its sort, possibly behind the entries that
this sort explains, so these are set aside until the sort is known.  A candidate is a table in which
the entries for its header are mixed with the others; they too are set aside, and decoded once the
table has ended.
-/

namespace DataContract.Declaration

open DataContract.Document

/-! ## Modifiers and constants -/

/-- The modifier that an item of a list stands for: a name, alone or as the only entry of a table. -/
def Modifier.ofItem? : Value → Option Modifier
  | .string word => ofName? word
  | .object [(word, .null)] => ofName? word
  | _ => none

/-- Decodes modifiers from a list of names or from a text of keywords. -/
def Modifiers.decode : Decoder Modifiers := fun _ v => do
  match ← Decoder.retain v with
  | .list items _ =>
    match items.mapM Modifier.ofItem? with
    | some ms => .ok ms
    | none => .error (.noForm "ModifiersRepr")
  | .string s => (Modifiers.parse s).mapError .unknownModifier
  | _ => .error (.noForm "ModifiersRepr")

/-- Whether an integer fits a signed word of 64 bits. -/
def fitsWord (n : Int) : Bool := -0x8000000000000000 ≤ n && n < 0x8000000000000000

/-- Decodes a constant. -/
def Constant.decode : Decoder Constant := fun _ v => do
  match ← Decoder.retain v with
  | .null => .ok .null
  | .boolean b => .ok (.boolean b)
  | .integer n =>
    if fitsWord n then .ok (.integer (Int64.ofInt n)) else .error (.noForm "ConstValue")
  | .string s => .ok (.string s)
  | _ => .error (.noForm "ConstValue")

/-! ## Attributes -/

/-- A named argument as a record. -/
def NamedArgument.asRecord : Record NamedArgument where
  title := "struct NamedArgument"
  fields :=
    [.due "name" Decoder.text fun s a => { a with name := s },
     .due "value" Constant.decode fun v a => { a with value := v }]
  stray := .refuse
  blank := ⟨"", .null⟩

/-- An attribute usage as a record. -/
def AttributeUsage.asRecord : Record AttributeUsage where
  title := "struct AttributeUsage"
  fields :=
    [.due "path" Decoder.text fun s a => { a with path := s },
     .optional "named" (Decoder.listOf NamedArgument.asRecord.decode) fun l a =>
       { a with named := l },
     .optional "arguments" Decoder.text fun s a => { a with arguments := s }]
  stray := .refuse
  blank := ⟨"", [], ""⟩

/-- Decodes an attribute usage. -/
def AttributeUsage.decode : Decoder AttributeUsage := AttributeUsage.asRecord.decode

/-! ## Members -/

/-- A parameter as a record. -/
def Parameter.asRecord : Record Parameter where
  title := "struct Parameter"
  fields :=
    [.due "ty" Decoder.text fun s p => { p with type := s },
     .due "name" Decoder.text fun s p => { p with name := s }]
  stray := .refuse
  blank := ⟨"", ""⟩

/-- A field declaration as a record. -/
def FieldDeclaration.asRecord : Record FieldDeclaration where
  title := "struct variant Member::Field"
  fields :=
    [.optional "modifiers" Modifiers.decode fun ms d => { d with modifiers := ms },
     .due "ty" Decoder.text fun s d => { d with type := s },
     .due "variables" (Decoder.listOf Decoder.text) fun l d => { d with names := l }]
  stray := .ignore
  blank := ⟨[], "", []⟩

/-- A property declaration as a record. -/
def PropertyDeclaration.asRecord : Record PropertyDeclaration where
  title := "struct variant Member::Property"
  fields :=
    [.optional "modifiers" Modifiers.decode fun ms d => { d with modifiers := ms },
     .due "ty" Decoder.text fun s d => { d with type := s },
     .due "name" Decoder.text fun s d => { d with name := s }]
  stray := .ignore
  blank := ⟨[], "", ""⟩

/-- A method declaration as a record. -/
def MethodDeclaration.asRecord : Record MethodDeclaration where
  title := "struct variant Member::Method"
  fields :=
    [.optional "modifiers" Modifiers.decode fun ms d => { d with modifiers := ms },
     .due "return_type" Decoder.text fun s d => { d with returnType := s },
     .due "name" Decoder.text fun s d => { d with name := s },
     .optional "parameters" (Decoder.listOf Parameter.asRecord.decode) fun l d =>
       { d with parameters := l }]
  stray := .ignore
  blank := ⟨[], "", "", []⟩

/-- The declaration of another member as a record. -/
def OtherDeclaration.asRecord : Record OtherDeclaration where
  title := "struct variant Member::Other"
  fields :=
    [.optional "modifiers" Modifiers.decode fun ms d => { d with modifiers := ms },
     .optional "name" (Decoder.optional Decoder.text) fun s d => { d with name := s }]
  stray := .ignore
  blank := ⟨[], none⟩

/-- A sort of member. -/
inductive MemberSort
  | field
  | property
  | method
  | other
  deriving DecidableEq, Repr

namespace MemberSort

/-- The sorts of member by their names. -/
def named : List (String × MemberSort) :=
  [("field", field), ("property", property), ("method", method), ("other", other)]

/-- The name of the entry that gives the sort. -/
def tag : String := "member"

/-- Decodes the sort of a member, which has to be written as a string. -/
def decode : Decoder MemberSort := fun form v =>
  match v with
  | .string name => Decoder.pick named name
  | v => .error (v.mismatch form "variant identifier")

/-- Decodes a member of a given sort from a part that was set aside. -/
def decodeBody (sort : MemberSort) (body : Value) : Except Mismatch Member :=
  match sort with
  | field => Member.field <$> FieldDeclaration.asRecord.decode .retained body
  | property => Member.property <$> PropertyDeclaration.asRecord.decode .retained body
  | method => Member.method <$> MethodDeclaration.asRecord.decode .retained body
  | other => Member.other <$> OtherDeclaration.asRecord.decode .retained body

end MemberSort

namespace Member

/-- Finds the sort among the entries of a table, and sets the other entries aside. -/
def separate (form : Form) :
    List (String × Value) → Option MemberSort →
      Except Mismatch (Option MemberSort × List (String × Value))
  | [], sort => .ok (sort, [])
  | (name, v) :: rest, sort =>
    if name = MemberSort.tag then
      if sort.isSome then .error (.duplicateField MemberSort.tag)
      else do
        let sort ← MemberSort.decode form v
        separate form rest (some sort)
    else do
      let kept ← Decoder.retain v
      let (sort, others) ← separate form rest sort
      .ok (sort, (name, kept) :: others)

/-- Decodes a member from a table that names its sort, or from a list that begins with it. -/
def decode : Decoder Member := fun form v =>
  match v with
  | .table entries flaw => do
    let (sort, others) ← separate form entries none
    if flaw.isSome then .error .malformed
    else
      match sort with
      | some sort => sort.decodeBody (.object others)
      | none => .error (.missingField MemberSort.tag)
  | .list (first :: rest) flaw => do
    let sort ← MemberSort.decode form first
    let body ← Decoder.retain (.list rest flaw)
    sort.decodeBody body
  | .array [] => .error (.missingField MemberSort.tag)
  | .list [] _ => .error .malformed
  | v => .error (v.mismatch form "internally tagged enum Member")

end Member

/-! ## Types -/

/-- A type header as a record. -/
def TypeHeader.asRecord : Record TypeHeader where
  title := "struct TypeScope"
  fields :=
    [.due "name" Decoder.text fun s h => { h with name := s },
     .optional "kind" (Decoder.choice TypeKind.named) fun k h => { h with kind := k },
     .optional "modifiers" Modifiers.decode fun ms h => { h with modifiers := ms },
     .optional "type_parameters" (Decoder.listOf Decoder.text) fun l h =>
       { h with typeParameters := l }]
  stray := .ignore
  blank := .ofName .class_ ""

/-- Decodes a type header. -/
def TypeHeader.decode : Decoder TypeHeader := TypeHeader.asRecord.decode

namespace Candidate

/-- A candidate without its header, and the entries set aside so far, the last one first. -/
abbrev Draft := Candidate × List (String × Value)

/-- A candidate as a record, in which all that is not its own is set aside for the header. -/
def asRecord : Record Draft where
  title := "struct CandidateDeclaration"
  fields :=
    [.optional "attributes" (Decoder.listOf AttributeUsage.decode) fun l d =>
       ({ d.1 with attributes := l }, d.2),
     .optional "members" (Decoder.listOf Member.decode) fun l d => ({ d.1 with members := l }, d.2),
     .optional "containing_types" (Decoder.listOf TypeHeader.decode) fun l d =>
       ({ d.1 with enclosing := l }, d.2),
     .optional "namespace" (Decoder.optional Decoder.text) fun s d =>
       ({ d.1 with within := s.map Namespace.mk }, d.2)]
  stray := .keep fun name v d => do
    let kept ← Decoder.retain v
    .ok (d.1, (name, kept) :: d.2)
  blank := (.ofHeader (.ofName .class_ ""), [])

/-- Decodes a candidate from a table. -/
def decode : Decoder Candidate := fun form v =>
  match v with
  | .table entries flaw => do
    let (c, kept) ← asRecord.ofEntries form entries flaw
    let header ← TypeHeader.asRecord.ofEntries .retained kept.reverse none
    .ok { c with header := header }
  | v => .error (v.mismatch form asRecord.title)

end Candidate

end DataContract.Declaration
