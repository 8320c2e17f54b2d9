import DataContract.Declaration.Candidate
import DataContract.Document.Value

/-!
# Declarations as documents

How a declaration is written as a document.  Lists that a reader takes to be empty when they are
missing are left out when they are empty, and so is a missing namespace; modifiers are always
written, as a list of names.
-/

namespace DataContract.Declaration

open DataContract.Document

/-- An entry that is left out if the list that it would hold is empty. -/
def unlessEmpty (name : String) (items : List Value) : List (String × Value) :=
  if items.isEmpty then [] else [(name, .array items)]

/-- The modifiers as a list of their names. -/
def Modifiers.encode (ms : Modifiers) : Value := Value.texts (ms.map Modifier.name)

/-- A constant as it is. -/
def Constant.encode : Constant → Value
  | null => .null
  | boolean b => .boolean b
  | integer n => .integer n.toInt
  | string s => .string s

/-- A named argument as a table. -/
def NamedArgument.encode (a : NamedArgument) : Value :=
  .object [("name", .string a.name), ("value", a.value.encode)]

/-- An attribute usage as a table. -/
def AttributeUsage.encode (usage : AttributeUsage) : Value :=
  .object (("path", .string usage.path) ::
    unlessEmpty "named" (usage.named.map NamedArgument.encode) ++
    if usage.arguments.isEmpty then [] else [("arguments", .string usage.arguments)])

/-- A parameter as a table. -/
def Parameter.encode (p : Parameter) : Value :=
  .object [("ty", .string p.type), ("name", .string p.name)]

/-- A member as a table that names its sort. -/
def Member.encode : Member → Value
  | field d =>
    .object [("member", .string "field"), ("modifiers", d.modifiers.encode),
      ("ty", .string d.type), ("variables", Value.texts d.names)]
  | property d =>
    .object [("member", .string "property"), ("modifiers", d.modifiers.encode),
      ("ty", .string d.type), ("name", .string d.name)]
  | method d =>
    .object [("member", .string "method"), ("modifiers", d.modifiers.encode),
      ("return_type", .string d.returnType), ("name", .string d.name),
      ("parameters", .array (d.parameters.map Parameter.encode))]
  | other d =>
    .object [("member", .string "other"), ("modifiers", d.modifiers.encode),
      ("name", Value.optionalText d.name)]

/-- The entries for a type header. -/
def TypeHeader.entries (h : TypeHeader) : List (String × Value) :=
  [("name", .string h.name), ("kind", .string h.kind.name), ("modifiers", h.modifiers.encode)] ++
    unlessEmpty "type_parameters" (h.typeParameters.map .string)

/-- A type header as a table. -/
def TypeHeader.encode (h : TypeHeader) : Value := .object h.entries

/-- The entry for a namespace, if there is one. -/
def Namespace.entry : Option Namespace → List (String × Value)
  | some n => [("namespace", .string n.text)]
  | none => []

/-- A candidate as one table, in which the entries for its header stand beside the others. -/
def Candidate.encode (c : Candidate) : Value :=
  .object (c.header.entries ++
    unlessEmpty "attributes" (c.attributes.map AttributeUsage.encode) ++
    unlessEmpty "members" (c.members.map Member.encode) ++
    unlessEmpty "containing_types" (c.enclosing.map TypeHeader.encode) ++
    Namespace.entry c.within)

end DataContract.Declaration
