import DataContract.Text.Blank

/-!
# Modifiers

A declaration begins with modifiers: keywords such as `public`, `static` or `partial`, in an order
that its author chose.  The order and any repetition are kept, so that a header can be written
again exactly as it was declared.

Modifiers have two spellings, a list in which each has its name, and a text in which the keywords are
separated by white space.  `Modifiers.parse` reads the text and `Modifiers.text` writes it.

There are three tables of modifiers.  A keyword is written from one (`Modifier.keyword`) and read by
another (`Modifier.ofKeyword?`).  The names are the identifiers in lower case, for writing a list as
for reading it (`Modifier.name`, `Modifier.ofName?`).
-/

namespace DataContract.Declaration

/-- A modifier of a type or of a member.  The constructors are in alphabetical order of their
keywords. -/
inductive Modifier
  | abstract
  | async
  | const
  | extern_
  | file
  | internal
  | new
  | override
  | partial_
  | private_
  | protected_
  | public_
  | readonly
  | ref
  | required
  | sealed
  | static
  | unsafe_
  | virtual
  | volatile
  deriving DecidableEq, Repr

namespace Modifier

/-- The keyword of a modifier. -/
def keyword : Modifier → String
  | abstract => "abstract"
  | async => "async"
  | const => "const"
  | extern_ => "extern"
  | file => "file"
  | internal => "internal"
  | new => "new"
  | override => "override"
  | partial_ => "partial"
  | private_ => "private"
  | protected_ => "protected"
  | public_ => "public"
  | readonly => "readonly"
  | ref => "ref"
  | required => "required"
  | sealed => "sealed"
  | static => "static"
  | unsafe_ => "unsafe"
  | virtual => "virtual"
  | volatile => "volatile"

/-- Every modifier, in alphabetical order. -/
def all : List Modifier :=
  [abstract, async, const, extern_, file, internal, new, override, partial_, private_, protected_,
   public_, readonly, ref, required, sealed, static, unsafe_, virtual, volatile]

/-- The modifier that a keyword is read as. -/
def ofKeyword? : String → Option Modifier
  | "abstract" => some abstract
  | "async" => some async
  | "const" => some const
  | "extern" => some extern_
  | "file" => some file
  | "internal" => some internal
  | "new" => some new
  | "override" => some override
  | "partial" => some partial_
  | "private" => some private_
  | "protected" => some protected_
  | "public" => some public_
  | "readonly" => some readonly
  | "ref" => some ref
  | "required" => some required
  | "sealed" => some sealed
  | "static" => some static
  | "unsafe" => some unsafe_
  | "virtual" => some virtual
  | "volatile" => some volatile
  | _ => none

/-- The identifier of a modifier. -/
def identifier : Modifier → String
  | abstract => "Abstract"
  | async => "Async"
  | const => "Const"
  | extern_ => "Extern"
  | file => "File"
  | internal => "Internal"
  | new => "New"
  | override => "Override"
  | partial_ => "Partial"
  | private_ => "Private"
  | protected_ => "Protected"
  | public_ => "Public"
  | readonly => "Readonly"
  | ref => "Ref"
  | required => "Required"
  | sealed => "Sealed"
  | static => "Static"
  | unsafe_ => "Unsafe"
  | virtual => "Virtual"
  | volatile => "Volatile"

/-- The name that documents give to a modifier: its identifier in lower case. -/
def name (m : Modifier) : String := String.ofList (m.identifier.toList.map Char.toLower)

/-- The modifier that documents give a name to. -/
def ofName? (word : String) : Option Modifier := all.find? (·.name == word)

/-- The place of a modifier in the alphabetical order. -/
def rank (m : Modifier) : Nat := all.idxOf m

theorem mem_all (m : Modifier) : m ∈ all := by cases m <;> decide

end Modifier

/-- Modifiers in the order of their declaration. -/
abbrev Modifiers := List Modifier

namespace Modifiers

/-- The modifiers with the given keywords, or the first word that is not a keyword. -/
def ofWords : List String → Except String Modifiers
  | [] => .ok []
  | word :: rest =>
    match Modifier.ofKeyword? word with
    | some m => (ofWords rest).map (m :: ·)
    | none => .error word

/-- The modifiers that a text lists, or its first word that is not a keyword. -/
def parse (text : String) : Except String Modifiers := ofWords (Text.wordsOf text)

/-- The keywords, separated by single spaces. -/
def text (ms : Modifiers) : String := String.intercalate " " (ms.map Modifier.keyword)

/-- Whether a declaration with these modifiers can be continued elsewhere. -/
def isPartial (ms : Modifiers) : Bool := ms.contains .partial_

/-- Whether a declaration with these modifiers is static. -/
def isStatic (ms : Modifiers) : Bool := ms.contains .static

/-- Whether one modifier comes before another in the alphabetical order, or is the same. -/
def inOrder (a b : Modifier) : Bool := a.rank ≤ b.rank

/-- The modifiers in alphabetical order. -/
def sorted (ms : Modifiers) : Modifiers := ms.mergeSort inOrder

end Modifiers

end DataContract.Declaration
