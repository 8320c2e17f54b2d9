/-!
# Serialization engines

There are two engines, one for JSON and one for XML.  Everything in which they differ is said
here: the marker attribute that asks for an engine, the serializer that its methods use, the names
of those methods and the ending of its unit names.

A marker attribute has to exist before it can be applied, so each engine also has a declaration of
its marker, which is given to the host as source text.
-/

namespace DataContract

/-- A serialization engine. -/
inductive Engine
  | json
  | xml
  deriving DecidableEq, Repr

namespace Engine

/-- Every engine, in the order in which they are used by default. -/
def all : List Engine := [json, xml]

/-- The name of an engine in documents. -/
def name : Engine → String
  | json => "json"
  | xml => "xml"

/-- The engines by their names in documents. -/
def named : List (String × Engine) := [("json", json), ("xml", xml)]

/-- The name of an engine in messages, which is also the ending of its method names. -/
def title : Engine → String
  | json => "Json"
  | xml => "Xml"

/-- The namespace of the marker attributes. -/
def markerNamespace : String := "ContractGen.Attributes"

/-- The full name of the attribute that a type needs beside a marker. -/
def serializableMarker : String := "System.Runtime.Serialization.DataContractAttribute"

/-- The marker's option that names the member supplying settings. -/
def settingsOption : String := "SettingsMember"

/-- The marker's option that asks for a writer on the instance. -/
def instanceWriterOption : String := "ImplementInstanceWriteMethod"

/-- The name of the marker attribute's type. -/
def markerName : Engine → String
  | json => "JsonContractAttribute"
  | xml => "XmlContractAttribute"

/-- The full name of the marker attribute's type. -/
def markerPath : Engine → String
  | json => "ContractGen.Attributes.JsonContractAttribute"
  | xml => "ContractGen.Attributes.XmlContractAttribute"

/-- The serializer's type as generated methods name it. -/
def serializerType : Engine → String
  | json => "global::System.Runtime.Serialization.Json.DataContractJsonSerializer"
  | xml => "global::System.Runtime.Serialization.DataContractSerializer"

/-- The last part of every unit name. -/
def unitSuffix : Engine → String
  | json => "JsonSerialization"
  | xml => "XmlSerialization"

/-- The name of the methods that write. -/
def writeMethod (e : Engine) : String := "Write" ++ e.title

/-- The name of the method that reads. -/
def readMethod (e : Engine) : String := "Read" ++ e.title

/-! ## Marker declarations -/

/-- Source text that declares a marker attribute, and the name it is given to the host under. -/
structure MarkerDeclaration where
  name : String
  source : String
  deriving DecidableEq, Repr

/-- The lines that declare a marker attribute. -/
def markerLines (e : Engine) : List String :=
  ["// <auto-generated/>",
   "using System;",
   "",
   "namespace " ++ markerNamespace,
   "\x7b",
   "\t/// <summary>",
   "\t/// Denotes the target type for code generation of " ++ e.name ++ " serialization members.",
   "\t/// </summary>",
   "\t[AttributeUsage(AttributeTargets.Class | AttributeTargets.Struct, Inherited = false, AllowMultiple = false)]",
   "\tinternal sealed class " ++ e.markerName ++ " : Attribute",
   "\t\x7b",
   "\t\t/// <summary>",
   "\t\t/// The name of the static member providing settings for serialization.",
   "\t\t/// </summary>",
   "\t\tpublic String " ++ settingsOption ++ " \x7b get; set; \x7d = String.Empty;",
   "\t\t/// <summary>",
   "\t\t/// Defines whether an instance method for writing into a stream shall be generated.",
   "\t\t/// </summary>",
   "\t\tpublic Boolean " ++ instanceWriterOption ++ " \x7b get; set; \x7d",
   "\t\x7d",
   "\x7d",
   ""]

/-- The declaration of an engine's marker attribute. -/
def markerDeclaration (e : Engine) : MarkerDeclaration :=
  ⟨markerNamespace ++ "." ++ e.markerName, String.intercalate "\n" e.markerLines⟩

end Engine

end DataContract
