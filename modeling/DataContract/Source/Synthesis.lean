import DataContract.Resolution
import DataContract.Source.Rendering

/-!
# The tree of a unit

A candidate gets a method that writes an instance, a method that reads one, and if it is asked for,
a method on the instance that forwards to the first.  The methods stand in a continuation of the
candidate, which stands in continuations of the types around it and in their namespace.  All those
types have to be open to continuation.
-/

namespace DataContract.Source

open Declaration

/-! ## Statements -/

/-- The statement that makes the serializer, which is the same in every method. -/
def constructionOf (h : TypeHeader) (e : Engine) (r : Resolution) : Statement :=
  .constructSerializer e.serializerType h.reference (r.provider.map SettingsProvider.expression)

/-- How documentation refers to a type: with braces around the type parameters. -/
def documentationReference (h : TypeHeader) : String :=
  h.reference.map fun c => if c = '<' then '\x7b' else if c = '>' then '\x7d' else c

/-- A reference to a type in documentation. -/
def seeReference (h : TypeHeader) : String :=
  "<see cref=\"" ++ documentationReference h ++ "\"/>"

/-! ## Methods -/

/-- The method that writes an instance into a stream.  An instance that is no value has to be
guarded against being missing. -/
def staticWriter (h : TypeHeader) (e : Engine) (r : Resolution) : Method where
  kind := .staticWrite
  name := e.writeMethod
  returnType := "void"
  parameters := [⟨streamType, "target"⟩, ⟨h.reference, "instance"⟩]
  body :=
    .throwIfNull "target" :: (if h.kind.isValueType then [] else [.throwIfNull "instance"]) ++
      [constructionOf h e r, .writeObject "target" "instance"]
  documentation :=
    { summary := "Serializes an instance of " ++ seeReference h ++ " into a stream."
      parameters :=
        [("target", "The stream to serialize into."), ("instance", "The instance to serialize.")]
      returns := none
      throwsFor := if h.kind.isValueType then ["target"] else ["instance", "target"] }

/-- The method that reads an instance from a stream. -/
def staticReader (h : TypeHeader) (e : Engine) (r : Resolution) : Method where
  kind := .staticRead
  name := e.readMethod
  returnType := if h.kind.isValueType then h.reference else h.reference ++ "?"
  parameters := [⟨streamType, "source"⟩]
  body := [.throwIfNull "source", constructionOf h e r, .readObject "source" h.reference]
  documentation :=
    { summary := "Deserializes an instance of " ++ seeReference h ++ " from a stream."
      parameters := [("source", "The stream to deserialize from.")]
      returns :=
        some ("A deserialized instance of " ++ seeReference h ++
          " if deserialized successfully; otherwise, the default value.")
      throwsFor := ["source"] }

/-- The method that writes the instance that it belongs to. -/
def instanceWriter (e : Engine) : Method where
  kind := .instanceWrite
  name := e.writeMethod
  returnType := "void"
  parameters := [⟨streamType, "target"⟩]
  body := [.throwIfNull "target", .forward e.writeMethod ["target", "this"]]
  documentation :=
    { summary := "Serializes this instance into a stream."
      parameters := [("target", "The stream to serialize into.")]
      returns := none
      throwsFor := ["target"] }

/-- The methods of a candidate, in order. -/
def methodsFor (h : TypeHeader) (e : Engine) (r : Resolution) : List Method :=
  (if r.instanceWriter then [instanceWriter e] else []) ++
    [staticWriter h e r, staticReader h e r]

/-! ## Trees -/

/-- A part wrapped in types, the first of which is the outermost. -/
def wrapInTypes (headers : List TypeHeader) (inner : Node) : Node :=
  headers.foldr (fun h node => .type h [node]) inner

/-- A part wrapped in a namespace, unless its name has no segments. -/
def wrapInNamespace (n : Option Namespace) (inner : Node) : Node :=
  match n with
  | none => inner
  | some n => if n.canonical.isEmpty then inner else .space n.canonical [inner]

/-- The first type around a candidate that cannot be continued. -/
def closedScope? (c : Candidate) : Option TypeHeader :=
  c.enclosing.find? fun h => !h.modifiers.isPartial

/-- The tree of the unit for a candidate. -/
def synthesize (c : Candidate) (e : Engine) (r : Resolution) : Except GenerationError Node :=
  match closedScope? c with
  | some h => .error (.closedScope h.reference)
  | none =>
    let type := Node.type c.header ((methodsFor c.header e r).map .method)
    .ok (wrapInNamespace c.within (wrapInTypes c.enclosing type))

end DataContract.Source
