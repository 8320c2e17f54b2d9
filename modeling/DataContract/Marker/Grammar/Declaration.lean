import DataContract.Marker.Grammar.Function

/-!
# Declarations

A block may declare functions, types, constants, modules, imports and more.  Declarations are only
recognized.
-/

namespace DataContract.Marker.Grammar

open DataContract.Marker.Parser

variable (g : Grammar)

/-! ## Imports -/

/-- Takes another name for what is imported. -/
def importAlias : Parser Unit := do
  word "as"
  let ts ← rest
  if startsWith Token.isIdent ts || startsWord "_" ts then drop 1
  else fail (.expected "identifier or underscore")

/-- What an import can begin with. -/
def importStarts : List Start :=
  [.ident, .word "self", .word "super", .word "crate", .word "try", .mark "*", .group .brace]

/-- Takes what is imported: a path, all of a module, or several of these in braces.  In braces a
path may begin at the root if so told. -/
def importTreeRule (root : Bool) : Parser Unit := do
  let ts ← rest
  if startsWith Token.isIdent ts || ["self", "super", "crate", "try"].any (startsWord · ts) then
    drop 1
    let ts ← rest
    if startsMark [':', ':'] ts then
      drop 2
      g.importTree false
    else if startsWord "as" ts then importAlias
  else if startsMark ['*'] ts then drop 1
  else if startsWith (Token.isGroup .brace) ts then
    let item : Parser Unit := do
      let rooted ← if root then mark? "::" else pure false
      g.importTree (root && !rooted)
    let _ ← inside .brace (commaList item)
  else failChoice importStarts

/-- Takes an import. -/
def importDeclaration : Parser Unit := do
  word "use"
  let rooted ← mark? "::"
  g.importTree (!rooted)
  mark ";"

/-- Takes a name that may be a keyword of its own. -/
def moduleName : Parser Unit := do
  if !(← word? "try") then
    let _ ← ident

/-- Takes the import of a library, from its name on. -/
def libraryImport : Parser Unit := do
  if !(← word? "self") then
    let _ ← ident
  if ← word? "as" then
    if !(← word? "_") then
      let _ ← ident
  mark ";"

/-! ## Fields and variants -/

/-- Takes a field with a name. -/
def namedField : Parser Unit := do
  let _ ← g.attributes
  let _ ← visibility
  let unnamed ← word? "_"
  if !unnamed then
    let _ ← ident
  mark ":"
  let ts ← rest
  if unnamed && (startsWord "struct" ts ||
      (startsWord "union" ts && startsWith (Token.isGroup .brace) ts.tail)) then
    drop 1
    g.fields
  else
    let _ ← g.type .loose

/-- Takes fields with names. -/
def fieldsRule : Parser Unit := do
  let _ ← inside .brace (commaList g.namedField)

/-- Takes a field without a name. -/
def positionalField : Parser Unit := do
  let _ ← g.attributes
  let _ ← visibility
  let _ ← g.type .loose

/-- Takes fields without names. -/
def positionalFields : Parser Unit := do
  let _ ← inside .parenthesis (commaList g.positionalField)

/-- Takes a variant of an enumeration. -/
def variant : Parser Unit := do
  let _ ← g.attributes
  let _ ← visibility
  let _ ← ident
  let ts ← rest
  if startsWith (Token.isGroup .brace) ts then g.fieldsRule
  else if startsWith (Token.isGroup .parenthesis) ts then g.positionalFields
  if ← mark? "=" then
    let _ ← g.expression true

/-- Takes a structure, from behind its parameters. -/
def structBody : Parser Unit := do
  let conditional ← g.conditions
  let ts ← rest
  let first : List Start := if conditional then [] else [.word "where", .group .parenthesis]
  if !conditional && startsWith (Token.isGroup .parenthesis) ts then
    g.positionalFields
    let conditional ← g.conditions
    let first : List Start := if conditional then [] else [.word "where"]
    if !(← mark? ";") then failChoice (first ++ [.mark ";"])
  else if startsWith (Token.isGroup .brace) ts then g.fieldsRule
  else if !(← mark? ";") then failChoice (first ++ [.group .brace, .mark ";"])

/-! ## Functions and constants -/

/-- Takes the body of a function. -/
def functionBody : Parser Unit := g.blockWithAttributes

/-- Takes a constant. -/
def constant : Parser Unit := do
  word "const"
  let ts ← rest
  if startsWith Token.isIdent ts || startsWord "_" ts then drop 1
  else failChoice [.ident, .word "_"]
  let _ ← g.genericParameters
  mark ":"
  let _ ← g.type .loose
  if ← mark? "=" then
    let _ ← g.expression true
  let _ ← g.conditions
  mark ";"

/-- Takes a static variable. -/
def staticVariable : Parser Unit := do
  word "static"
  let _ ← word? "mut"
  let _ ← ident
  if ← mark? "=" then
    let _ ← g.expression true
    mark ";"
  else
    mark ":"
    let _ ← g.type .loose
    if !(← mark? ";") then
      mark "="
      let _ ← g.expression true
      mark ";"

/-! ## Types -/

/-- Takes bounds that are separated by plus signs, up to where `ends` holds. -/
def supertraits (ends : List Token → Bool) : Parser Unit :=
  repeating (fun _ => do
    if ← looking ends then return .done ()
    let _ ← g.bound .parameter
    if ← looking ends then return .done ()
    mark "+"
    return .again ()) ()

/-- Takes the name of a type with its bounds and its definition.  Conditions may stand in front of
the definition or behind it, as told. -/
def typeAlias (early late : Bool) : Parser Unit := do
  word "type"
  let _ ← ident
  let _ ← g.genericParameters
  if ← mark? ":" then
    g.supertraits fun ts => startsWord "where" ts || startsMark ['='] ts || startsMark [';'] ts
  let conditional ← if early then g.conditions else pure false
  if ← mark? "=" then
    let _ ← g.type .loose
  if late && !conditional then
    let _ ← g.conditions
  mark ";"

/-- Takes a structure. -/
def structDeclaration : Parser Unit := do
  word "struct"
  let _ ← ident
  let _ ← g.genericParameters
  g.structBody

/-- Takes an enumeration. -/
def enumeration : Parser Unit := do
  word "enum"
  let _ ← ident
  let _ ← g.genericParameters
  let _ ← g.conditions
  let _ ← inside .brace (commaList g.variant)

/-- Takes a union. -/
def union : Parser Unit := do
  word "union"
  let _ ← ident
  let _ ← g.genericParameters
  let _ ← g.conditions
  g.fieldsRule

/-! ## Invocations -/

/-- Takes the group of an invocation, which a semicolon follows unless it is in braces. -/
def invocationGroup : Parser Unit := do
  if (← anyGroup) ≠ .brace then mark ";"

/-- Takes an invocation among members. -/
def memberInvocation : Parser Unit := do
  let _ ← simplePath
  mark "!"
  invocationGroup

/-- Takes an invocation that may declare a name. -/
def namingInvocation : Parser Unit := do
  let _ ← simplePath
  mark "!"
  let ts ← rest
  if startsWith Token.isIdent ts || startsWord "try" ts then drop 1
  invocationGroup

/-- What an invocation can begin with. -/
def invocationStarts : List Start :=
  [.ident, .word "self", .word "super", .word "crate", .mark "::"]

/-- Whether an invocation can begin here. -/
def startsInvocation (ts : List Token) : Bool := invocationStarts.any (·.isAt ts)

/-- Takes the declaration of what can be invoked. -/
def invocable : Parser Unit := do
  word "macro"
  let _ ← ident
  let ts ← rest
  if startsWith (Token.isGroup .parenthesis) ts then
    drop 1
    if ← looking (startsWith (Token.isGroup .brace)) then drop 1 else failChoice [.group .brace]
  else if startsWith (Token.isGroup .brace) ts then drop 1
  else failChoice [.group .parenthesis, .group .brace]

/-! ## Members -/

/-- Takes all members of a group in braces. -/
def members (member : Parser Unit) : Parser Unit := inside .brace do
  g.innerAttributes
  repeating (fun _ => do
    if (← rest).isEmpty then return .done ()
    member
    return .again ()) ()

/-- Takes a constant or a function that begins with `const`, among the members of a trait. -/
def traitConstant (function : Parser Unit) : Parser Unit := do
  let ts := (← rest).tail
  if startsWith Token.isIdent ts || startsWord "_" ts then g.constant
  else if ["async", "unsafe", "extern", "fn"].any (startsWord · ts) then function
  else
    drop 1
    failChoice [.ident, .word "_", .word "async", .word "unsafe", .word "extern", .word "fn"]

/-- Takes a function of a trait, which need not have a body. -/
def traitFunction : Parser Unit := do
  g.signature false
  if ← looking (startsWith (Token.isGroup .brace)) then g.functionBody
  else if !(← mark? ";") then failChoice [.group .brace, .mark ";"]

/-- Takes a member of a trait. -/
def traitMember : Parser Unit := do
  let _ ← g.attributes
  let visible ← visibility
  let preset ← word? "default"
  let ts ← rest
  let bare := !visible && !preset
  if startsSignature false ts then g.traitFunction
  else if startsWord "const" ts then g.traitConstant g.traitFunction
  else if startsWord "type" ts then g.typeAlias false true
  else if bare && startsInvocation ts then memberInvocation
  else
    failChoice ([.word "fn", .word "const", .word "type"] ++
      if bare then invocationStarts else [])

/-- Takes a function of an implementation. -/
def implementedFunction : Parser Unit := do
  g.signature false
  if !(← mark? ";") then g.functionBody

/-- Takes a member of an implementation. -/
def implementedMember : Parser Unit := do
  let _ ← g.attributes
  let visible ← visibility
  let ts ← rest
  let preset := startsWord "default" ts && !startsMark ['!'] ts.tail
  if preset then drop 1
  let ts ← rest
  let bare := !visible && !preset
  if startsSignature false ts then g.implementedFunction
  else if startsWord "const" ts then g.constant
  else if startsWord "type" ts then g.typeAlias false true
  else if bare && startsInvocation ts then memberInvocation
  else
    failChoice ((if preset then [] else [.word "default"]) ++
      [.word "fn", .word "const", .word "type"] ++ if bare then invocationStarts else [])

/-- Takes a static variable of a foreign library. -/
def foreignVariable : Parser Unit := do
  if !(← word? "unsafe") then
    let _ ← word? "safe"
  word "static"
  let _ ← word? "mut"
  let _ ← ident
  mark ":"
  let _ ← g.type .loose
  if ← mark? "=" then
    let _ ← g.expression true
  mark ";"

/-- Takes a member of a foreign library. -/
def foreignMember : Parser Unit := do
  let _ ← g.attributes
  let visible ← visibility
  let ts ← rest
  if startsSignature true ts then
    g.signature true
    if ← looking (startsWith (Token.isGroup .brace)) then g.functionBody else mark ";"
  else if startsWord "static" ts ||
      ((startsWord "unsafe" ts || startsWord "safe" ts) && startsWord "static" ts.tail) then
    g.foreignVariable
  else if startsWord "type" ts then g.typeAlias true true
  else if !visible && startsInvocation ts then memberInvocation
  else
    failChoice ([.word "fn", .word "static", .word "type"] ++
      if visible then [] else invocationStarts)

/-! ## Groups of members -/

/-- Takes a trait, from behind its parameters. -/
def traitBody : Parser Unit := do
  if ← mark? ":" then
    g.supertraits fun ts => startsWord "where" ts || startsWith (Token.isGroup .brace) ts
  let _ ← g.conditions
  g.members g.traitMember

/-- Takes a trait with words in front of it. -/
def qualifiedTrait : Parser Unit := do
  let _ ← word? "unsafe"
  let _ ← word? "auto"
  word "trait"
  let _ ← ident
  let _ ← g.genericParameters
  g.traitBody

/-- Takes a trait, or another name for bounds. -/
def trait : Parser Unit := do
  word "trait"
  let _ ← ident
  let _ ← g.genericParameters
  let ts ← rest
  if startsWith (Token.isGroup .brace) ts || startsMark [':'] ts || startsWord "where" ts then
    g.traitBody
  else if startsMark ['='] ts then
    drop 1
    g.supertraits fun ts => startsWord "where" ts || startsMark [';'] ts
    let _ ← g.conditions
    mark ";"
  else failChoice [.group .brace, .mark ":", .word "where", .mark "="]

/-- Takes an implementation of a trait or of a type by itself. -/
def implementation : Parser Unit := do
  let _ ← word? "default"
  let _ ← word? "unsafe"
  word "impl"
  if ← looking startsBinders then
    let _ ← g.genericParameters
  let ts ← rest
  if startsWord "const" ts then drop 1
  else if startsMark ['?'] ts && startsWord "const" ts.tail then drop 2
  let ts ← rest
  let negative := startsMark ['!'] ts && !startsWith (Token.isGroup .brace) ts.tail
  if negative then drop 1
  let _ ← g.type .loose
  if ← word? "for" then
    let _ ← g.type .loose
  else if negative then failWith .negativeInherent
  let _ ← g.conditions
  g.members g.implementedMember

/-- Takes a module, from its name on. -/
def moduleBody : Parser Unit := do
  moduleName
  let ts ← rest
  if startsMark [';'] ts then drop 1
  else if startsWith (Token.isGroup .brace) ts then g.members g.declaration
  else failChoice [.mark ";", .group .brace]

/-- Takes a module. -/
def module : Parser Unit := do
  let _ ← word? "unsafe"
  word "mod"
  g.moduleBody

/-- Takes declarations of a foreign library. -/
def foreignModule : Parser Unit := do
  let _ ← word? "unsafe"
  if ← looking (startsWord "extern") then convention? else word "extern"
  g.members g.foreignMember

/-! ## The rule -/

/-- Takes what `extern` introduces; nothing may be visible but the import of a library. -/
def foreign (visible : Bool) : Parser Unit := do
  let ts := (← rest).tail
  if startsWord "crate" ts then
    drop 2
    libraryImport
  else
    match ts with
    | .group .brace _ :: _ => hidden
    | .literal (.string _) :: behind =>
      if startsWith (Token.isGroup .brace) behind then hidden
      else
        drop 2
        failChoice [.group .brace]
    | _ =>
      drop 1
      failChoice [.word "crate", .group .brace, ⟨"string literal", fun _ => false⟩]
where
  /-- Takes declarations of a foreign library that are not visible. -/
  hidden : Parser Unit := if visible then failWith (.expected "`extern`") else g.foreignModule

/-- Takes what `unsafe` introduces, other than a function. -/
def uncheckedDeclaration (visible : Bool) : Parser Unit := do
  let ts := (← rest).tail
  if startsWord "trait" ts || (startsWord "auto" ts && startsWord "trait" ts.tail) then
    g.qualifiedTrait
  else if startsWord "impl" ts then g.implementation
  else if startsWord "extern" ts then
    if visible then failWith (.expected "`extern`") else g.foreignModule
  else if startsWord "mod" ts then g.module
  else
    drop 1
    failChoice [.word "trait", .word "auto", .word "impl", .word "extern", .word "mod"]

/-- What a declaration can begin with. -/
def declarationStarts (visible : Bool) : List Start :=
  [.word "fn", .word "extern", .word "use", .word "static", .word "const", .word "unsafe",
   .word "mod", .word "type", .word "struct", .word "enum", .word "union", .word "trait",
   .word "auto", .word "impl", .word "default", .word "macro"] ++
    if visible then [] else invocationStarts

/-- Takes a declaration, from behind its attributes. -/
def declarationBody : Parser Unit := do
  let visible ← visibility
  let ts ← rest
  let next := ts.tail
  if startsSignature false ts then
    g.signature false
    if !(← mark? ";") then g.functionBody
  else if startsWord "extern" ts then g.foreign visible
  else if startsWord "use" ts then g.importDeclaration
  else if startsWord "static" ts then g.staticVariable
  else if startsWord "const" ts then g.constant
  else if startsWord "unsafe" ts then g.uncheckedDeclaration visible
  else if startsWord "mod" ts then g.module
  else if startsWord "type" ts then g.typeAlias true false
  else if startsWord "struct" ts then g.structDeclaration
  else if startsWord "enum" ts then g.enumeration
  else if startsWord "union" ts && startsWith Token.isIdent next then g.union
  else if startsWord "trait" ts then g.trait
  else if startsWord "auto" ts && startsWord "trait" next then g.qualifiedTrait
  else if startsWord "impl" ts || (startsWord "default" ts && !startsMark ['!'] next) then
    g.implementation
  else if startsWord "macro" ts then invocable
  else if !visible && startsInvocation ts then namingInvocation
  else failChoice (declarationStarts visible)

/-- Takes a declaration with its attributes. -/
def declarationRule : Parser Unit := do
  let _ ← g.attributes
  g.declarationBody

end DataContract.Marker.Grammar
