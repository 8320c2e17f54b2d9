import DataContract.Declaration.Attribute
import DataContract.Marker.Item
import DataContract.Marker.Options

/-!
# Binding the arguments of a marker

The arguments of a marker are bound to its options one by one, in order.  Every argument that
cannot be bound is a fault, and binding goes on behind it; but only the first argument for an option
is looked at, any other is a duplicate.  Arguments that have been evaluated go before the argument
list as written, and take the form of items with a literal for a value.
-/

namespace DataContract.Marker

open Declaration

/-! ## Values -/

/-- The name that a member access or a path ends with. -/
def memberName? : Expr → Option String
  | .path p => p.segments.getLast?
  | .field name => name
  | _ => none

/-- The member that a call names. -/
def nameofTarget (callee : Expr) (arguments : List Expr) : Except ValueFault String :=
  match callee, arguments with
  | .path p, [argument] =>
    if p.isName "nameof" then
      match memberName? argument with
      | some name => .ok name
      | none => .error .notMember
    else .error .notNameof
  | _, _ => .error .notNameof

/-- The name that an expression stands for: a string, or the member named by a call of `nameof`,
possibly in parentheses. -/
def settingsOf : Expr → Except ValueFault String
  | .literal (.string s) => .ok s
  | .literal l => .error (.wrongType l.typeName)
  | .paren inner => settingsOf inner
  | .call callee arguments => nameofTarget callee arguments
  | e => .error (.wrongType e.typeName)

/-- The truth value that a text spells. -/
def truthOf (text : String) : Except ValueFault Bool :=
  if text = "true" then .ok true
  else if text = "false" then .ok false
  else .error (.unknownValue text)

/-- The truth value that an expression stands for: a literal, or a string that spells one. -/
def instanceWriterOf : Expr → Except ValueFault Bool
  | .literal (.boolean b) => .ok b
  | .literal (.string s) => truthOf s
  | .literal l => .error (.wrongType l.typeName)
  | e => .error (.wrongType e.typeName)

/-- The fault of an option that is written with a group. -/
def listFault (tokens : List Token) : ValueFault :=
  match Item.listOf tokens with
  | .error f => .content f
  | .ok _ => .form "list"

/-- The options with one of them set as its argument says. -/
def MarkerOptions.set (o : MarkerOptions) (option : MarkerOption) (body : ItemBody) :
    Except ValueFault MarkerOptions :=
  match option, body with
  | _, .list tokens => .error (listFault tokens)
  | .settings, .word => .error (.form "word")
  | .settings, .value e => do return { o with settings := some (← settingsOf e) }
  | .instanceWriter, .word => .ok { o with instanceWriter := true }
  | .instanceWriter, .value e => do return { o with instanceWriter := ← instanceWriterOf e }

/-! ## Items -/

/-- The options set so far, those that have occurred, and the faults so far, the last one first. -/
structure BindingState where
  options : MarkerOptions
  seen : List MarkerOption
  faults : List ArgumentFault

namespace BindingState

/-- The state before the first item. -/
def start : BindingState := ⟨.standard, [], []⟩

/-- The state with one more fault. -/
def refuse (s : BindingState) (f : ArgumentFault) : BindingState :=
  { s with faults := f :: s.faults }

/-- The state behind an item. -/
def bindItem (s : BindingState) : Item → BindingState
  | .literal _ => s.refuse .positional
  | .named name body =>
    match MarkerOption.ofName? name with
    | none => s.refuse (.unknown name)
    | some option =>
      if s.seen.contains option then s.refuse (.duplicate option)
      else
        let s := { s with seen := option :: s.seen }
        match s.options.set option body with
        | .ok options => { s with options := options }
        | .error f => s.refuse (.value option f)

/-- The options, unless there have been faults. -/
def result (s : BindingState) : Except BindingError MarkerOptions :=
  match s.faults.reverse with
  | [] => .ok s.options
  | first :: others => .error ⟨first, others⟩

end BindingState

/-- The options that a list of items sets. -/
def bindItems (items : List Item) : Except BindingError MarkerOptions :=
  (items.foldl BindingState.bindItem .start).result

/-! ## Arguments -/

/-- The identifier that a text consists of. -/
def identifier? (text : String) : Option String :=
  match Lexer.tokenize? text with
  | some [.ident name raw] => if isName name raw then some (spelling name raw) else none
  | _ => none

/-- The literal for an evaluated constant other than null. -/
def literalOf? : Constant → Option Literal
  | .null => none
  | .boolean b => some (.boolean b)
  | .integer n => some (.integer n.toInt "")
  | .string s => some (.string s)

/-- The items for evaluated arguments, where null stands for an argument left out. -/
def itemsOfNamed : List NamedArgument → Except BindingError (List Item)
  | [] => .ok []
  | a :: rest =>
    match literalOf? a.value with
    | none => itemsOfNamed rest
    | some l =>
      match identifier? a.name with
      | none => .error (.single (.noIdentifier a.name))
      | some name => do
        let items ← itemsOfNamed rest
        return .named name (.value (.literal l)) :: items

/-- The items of an argument list as written. -/
def itemsOfText (text : String) : Except BindingError (List Item) :=
  match Lexer.tokenize? text with
  | none => .error (.single .noTokens)
  | some tokens => (Item.listOf tokens).mapError fun f => .single (.grammar f)

/-- The options that a use of a marker sets. -/
def bindUsage (usage : AttributeUsage) : Except BindingError MarkerOptions := do
  let items ←
    if usage.named.isEmpty then itemsOfText usage.arguments else itemsOfNamed usage.named
  bindItems items

/-- The options that the use of an attribute sets for an engine, or none if the attribute is not
the engine's marker. -/
def bindUsageFor? (usage : AttributeUsage) (e : Engine) :
    Except BindingError (Option MarkerOptions) :=
  if usage.is e.markerPath then some <$> bindUsage usage else .ok none

end DataContract.Marker
