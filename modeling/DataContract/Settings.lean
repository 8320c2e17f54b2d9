import DataContract.Declaration.Member

/-!
# Members that supply settings

A marker may name a member that supplies the settings of the serializer.  It has to be one of the
type's own static members: a property, a field of which it is the first variable, or a method
without parameters that returns nothing.  The first member that fits decides how the settings are
read.
-/

namespace DataContract

open Declaration

/-- How a member supplies settings. -/
inductive ProviderShape
  | property
  | field
  | method
  deriving DecidableEq, Repr

/-- A member that supplies settings. -/
structure SettingsProvider where
  member : String
  shape : ProviderShape
  deriving DecidableEq, Repr

namespace SettingsProvider

/-- The expression that reads the settings. -/
def expression (p : SettingsProvider) : String :=
  match p.shape with
  | .method => p.member ++ "()"
  | _ => p.member

end SettingsProvider

/-- How a member supplies settings under a given name, if it does. -/
def providerShape? (name : String) (m : Member) : Option ProviderShape :=
  if !m.isStatic then none
  else
    match m with
    | .property d => if d.name = name then some .property else none
    | .field d => if d.names.head? = some name then some .field else none
    | .method d =>
      if d.name = name && Text.trim d.returnType = "void" && d.parameters.isEmpty then some .method
      else none
    | .other _ => none

/-- The provider of the given name among the members of a type: the first that fits. -/
def settingsProvider? (members : List Member) (name : String) : Option SettingsProvider :=
  (members.findSome? (providerShape? name)).map (⟨name, ·⟩)

end DataContract
