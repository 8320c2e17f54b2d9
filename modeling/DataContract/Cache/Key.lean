import DataContract.Configuration
import DataContract.Declaration.Candidate

/-!
# Cache keys

A cache key fingerprints everything that can influence a unit: the namespace, the types around the
candidate and its header, the engine, the uses of the engine's marker, the static members, the
layout, and the policy on settings.

The key is kept as the bytes that are fingerprinted, so keys are equal exactly if those bytes are.
Numbers take eight bytes, the least significant first; a text is followed by a byte that occurs in
none; a list of a type's parts is preceded by its length.  The uses of the marker and the static
members, however, follow each other without a length.
-/

namespace DataContract

open Declaration

/-- The bytes that identify what a unit depends on. -/
structure CacheKey where
  bytes : List UInt8
  deriving DecidableEq, Repr

namespace CacheKey

/-- A number as eight bytes, the least significant first. -/
def word (n : Nat) : List UInt8 := (List.range 8).map fun i => UInt8.ofNat (n / Nat.pow 256 i)

/-- A truth value as one byte. -/
def truth (b : Bool) : List UInt8 := [if b then 1 else 0]

/-- A text in UTF-8. -/
def utf8 (s : String) : List UInt8 := s.toList.flatMap String.utf8EncodeChar

/-- A text and the byte behind it. -/
def text (s : String) : List UInt8 := utf8 s ++ [0xff]

/-- A list, preceded by its length. -/
def listOf {α : Type} (bytes : α → List UInt8) (items : List α) : List UInt8 :=
  word items.length ++ items.flatMap bytes

/-- A value that may be missing. -/
def optional {α : Type} (bytes : α → List UInt8) : Option α → List UInt8
  | none => word 0
  | some a => word 1 ++ bytes a

/-- The number of a kind of type. -/
def ofKind : TypeKind → List UInt8
  | .class_ => word 0
  | .interface => word 1
  | .record => word 2
  | .recordStruct => word 3
  | .struct => word 4

/-- Modifiers by their places in the alphabetical order. -/
def ofModifiers (ms : Modifiers) : List UInt8 := listOf (fun m => word m.rank) ms

/-- A type header. -/
def ofHeader (h : TypeHeader) : List UInt8 :=
  text h.name ++ ofKind h.kind ++ ofModifiers h.modifiers ++ listOf text h.typeParameters

/-- The number of an engine. -/
def ofEngine : Engine → List UInt8
  | .json => word 0
  | .xml => word 1

/-- A constant. -/
def ofConstant : Constant → List UInt8
  | .null => word 0
  | .boolean b => word 1 ++ truth b
  | .integer n => word 2 ++ word n.toUInt64.toNat
  | .string s => word 3 ++ text s

/-- A named argument. -/
def ofArgument (a : NamedArgument) : List UInt8 := text a.name ++ ofConstant a.value

/-- The use of an attribute. -/
def ofUsage (usage : AttributeUsage) : List UInt8 :=
  text usage.path ++ listOf ofArgument usage.named ++ text usage.arguments

/-- A parameter. -/
def ofParameter (p : Parameter) : List UInt8 := text p.type ++ text p.name

/-- A member. -/
def ofMember : Member → List UInt8
  | .field d => word 0 ++ ofModifiers d.modifiers ++ text d.type ++ listOf text d.names
  | .property d => word 1 ++ ofModifiers d.modifiers ++ text d.type ++ text d.name
  | .method d =>
    word 2 ++ ofModifiers d.modifiers ++ text d.returnType ++ text d.name ++
      listOf ofParameter d.parameters
  | .other d => word 3 ++ ofModifiers d.modifiers ++ optional text d.name

/-- A layout. -/
def ofLayout (l : Source.Layout) : List UInt8 :=
  text l.indent ++ truth l.docComments ++ truth l.header

/-- The number of a policy. -/
def ofPolicy : UnresolvedPolicy → List UInt8
  | .allow => word 0
  | .warn => word 1
  | .deny => word 2

/-- The key of the unit for a candidate, an engine and a configuration. -/
def of (c : Candidate) (e : Engine) (config : Configuration) : CacheKey :=
  ⟨optional (fun n => text n.text) c.within ++ listOf ofHeader c.enclosing ++ ofHeader c.header ++
    ofEngine e ++ (c.usagesOf e.markerPath).flatMap ofUsage ++
    (c.members.filter Member.isStatic).flatMap ofMember ++ ofLayout config.layout ++
    ofPolicy config.unresolved⟩

/-- The number of hexadecimal digits that a fingerprint of a key has. -/
def width : Nat := 32

end CacheKey

end DataContract
