import DataContract.Engine
import DataContract.Marker.Parser
import DataContract.Text.Similarity

/-!
# The options of a marker

A marker has two options: the name of the member that supplies settings, and whether a writer on
the instance is wanted.  An argument list that does not set them properly has one or more faults,
which are all reported together.
-/

namespace DataContract.Marker

/-- An option of a marker. -/
inductive MarkerOption
  | settings
  | instanceWriter
  deriving DecidableEq, Repr

namespace MarkerOption

/-- The name of an option. -/
def name : MarkerOption → String
  | settings => Engine.settingsOption
  | instanceWriter => Engine.instanceWriterOption

/-- The option of a given name. -/
def ofName? (name : String) : Option MarkerOption :=
  [settings, instanceWriter].find? (·.name == name)

end MarkerOption

/-- The options as a marker sets them: the member named, if any, and whether a writer on the
instance is wanted. -/
structure MarkerOptions where
  settings : Option String
  instanceWriter : Bool
  deriving DecidableEq, Repr

namespace MarkerOptions

/-- The options by default. -/
def standard : MarkerOptions := ⟨none, false⟩

/-- The member that supplies settings, where an empty name counts as none. -/
def effectiveSettings (o : MarkerOptions) : Option String := o.settings.filter (!·.isEmpty)

end MarkerOptions

/-! ## Faults -/

/-- What is wrong with the value of an option. -/
inductive ValueFault
  /-- The option is written in a form that it does not have. -/
  | form (name : String)
  | wrongType (name : String)
  | unknownValue (text : String)
  /-- A call of something other than `nameof` with one argument. -/
  | notNameof
  /-- A call of `nameof` with something that is no member. -/
  | notMember
  /-- A group whose content is no argument list. -/
  | content (fault : Fault)
  deriving DecidableEq, Repr

/-- What is wrong with an argument. -/
inductive ArgumentFault
  /-- The text of the argument list cannot be cut into tokens. -/
  | noTokens
  | grammar (fault : Fault)
  /-- The name of an evaluated argument is no identifier. -/
  | noIdentifier (name : String)
  /-- An argument without a name. -/
  | positional
  | unknown (name : String)
  | duplicate (option : MarkerOption)
  | value (option : MarkerOption) (fault : ValueFault)
  deriving DecidableEq, Repr

/-- The words for an option written in a form that it does not have. -/
def formMessage (name : String) : String := s!"Unexpected meta-item format `{name}`"

namespace ValueFault

/-- The words for what is wrong with a value. -/
def message : ValueFault → String
  | form name => formMessage name
  | wrongType name => s!"Unexpected type `{name}`"
  | unknownValue text => s!"Unknown value: `{text}`"
  | notNameof => "expected a string literal or nameof(Member)"
  | notMember => "nameof requires a member name"
  | content fault => fault.message

end ValueFault

namespace ArgumentFault

/-- The words for an unknown name, with the option that was probably meant or with all options. -/
def unknownMessage (name : String) : String :=
  let options := [MarkerOption.settings.name, MarkerOption.instanceWriter.name]
  let start := s!"Unknown field: `{name}`. "
  match Text.closest name options with
  | some option => start ++ s!"Did you mean `{option}`?"
  | none =>
    let available := options.reverse.map fun option => s!"`{option}`"
    start ++ "Available values: " ++ String.intercalate ", " available

/-- The words for what is wrong with an argument. -/
def message : ArgumentFault → String
  | noTokens => "malformed argument list: cannot parse string into token stream"
  | grammar fault => fault.message
  | noIdentifier name => s!"Unknown field: `{name}`"
  | positional => formMessage "literal"
  | unknown name => unknownMessage name
  | duplicate option => s!"Duplicate field `{option.name}`"
  | value option fault => fault.message ++ s!" at {option.name}"

end ArgumentFault

/-- What is wrong with the arguments of a marker: a fault and those behind it. -/
structure BindingError where
  first : ArgumentFault
  others : List ArgumentFault
  deriving DecidableEq, Repr

namespace BindingError

/-- The error of a single fault. -/
def single (f : ArgumentFault) : BindingError := ⟨f, []⟩

/-- The faults in order. -/
def faults (e : BindingError) : List ArgumentFault := e.first :: e.others

/-- The number of faults. -/
def count (e : BindingError) : Nat := e.faults.length

/-- The words for an error: those for its fault, or a list of them. -/
def message (e : BindingError) : String :=
  match e.others with
  | [] => e.first.message
  | _ => "Multiple errors: (" ++ String.intercalate ", " (e.faults.map (·.message)) ++ ")"

end BindingError

end DataContract.Marker
