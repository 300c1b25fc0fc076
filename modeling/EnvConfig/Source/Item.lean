import EnvConfig.Source.Record

-- Items, and what traits, implementations and foreign modules consist of.

namespace EnvConfig.Source.Rule

open EnvConfig.Source.Parser

-- Words by which an invocation may start.
def pathWords : List Look :=
  [.ident, "self", "super", "crate", "::"]

def closeInvocation (d : Delimiter) : Parser Unit := do
  if d != .brace then expect ";"

def invocation : Parser Unit := do
  discard modPath
  expect "!"
  closeInvocation (← delimited)

-- An invocation that is an item may name what it declares.
def itemInvocation : Parser Unit := do
  discard modPath
  expect "!"
  discard (takeAny? ["try", .ident])
  closeInvocation (← delimited)

def body (g : Grammar) : Parser Unit :=
  within .brace (do innerAttributes g; g.statements)

def constantName : Parser Unit := do
  if (← sees .ident) || (← sees "_") then discard anyIdent
  else failExpecting [.ident, "_"]

-- A constant behind its name. One with generic parameters or a where clause is shown as it is written from
-- a cursor on, and so is one without a value where it needs one.
def constantRest (g : Grammar) (start : Cursor) (valued : Bool) : Parser Unit := do
  let isGeneric ← sees "<"
  generics g
  expect ":"
  discard (g.type true)
  let hasValue ← take? "="
  if hasValue then discard (g.expr true)
  let isGeneric := isGeneric || (← sees "where")
  whereClause g
  expect ";"
  if isGeneric || valued && !hasValue then showAsWritten start

def boundsUpTo (g : Grammar) (constants : Bool) (stops : List Look) : Parser Unit :=
  loop (fun _ => do
    if ← seesAny stops then return ((), false)
    discard (g.bound ⟨false, constants⟩)
    if ← seesAny stops then return ((), false)
    expect "+"
    return ((), true)) ()

-- A where clause stands in front of the definition of a type, or behind it.
structure WherePlaces where
  front  : Bool
  behind : Bool

-- What stands behind the name of a type.
structure TypeParts where
  bounded : Bool
  defined : Bool

def typeItem (g : Grammar) (allowDefault : Bool) (places : WherePlaces) : Parser TypeParts := do
  discard visibility
  if allowDefault then discard (take? "default")
  expect "type"
  discard ident
  generics g
  let bounded ← sees ":"
  boundsBehindColon (boundsUpTo g true ["where", "=", ";"])
  let inFront := places.front && (← sees "where")
  if inFront then whereClause g
  let defined ← take? "="
  if defined then discard (g.type true)
  if places.behind && !inFront then whereClause g
  expect ";"
  return ⟨bounded, defined⟩

-- A type that stands for another one. If it does not, or has bounds, it is shown as it is written.
def typeAlias (g : Grammar) (start : Cursor) (allowDefault : Bool) (places : WherePlaces) :
    Parser Unit := do
  let parts ← typeItem g allowDefault places
  if parts.bounded || !parts.defined then showAsWritten start

-- Without a type or a value it is shown as it is written.
def staticItem (g : Grammar) (start : Cursor) : Parser Unit := do
  discard visibility
  expect "static"
  discard (take? "mut")
  discard ident
  if ← take? "=" then
    discard (g.expr true)
    expect ";"
    showAsWritten start
  else
    expect ":"
    discard (g.type true)
    if ← take? ";" then showAsWritten start
    else
      expect "="
      discard (g.expr true)
      expect ";"

def constItem (g : Grammar) (start : Cursor) : Parser Unit := do
  discard visibility
  expect "const"
  constantName
  constantRest g start true

def useWords : List Look :=
  [.ident, "self", "super", "crate", "try"]

def useName (g : Grammar) : Parser Unit := do
  discard anyIdent
  if ← take? "::" then discard (g.useTree false)
  else if ← take? "as" then
    if !(← takeAny? [.ident, "_"]) then fail "expected identifier or underscore"

-- Trees in braces may start at the root of the crate if the tree around them may.
def useGroup (g : Grammar) (crateRoot : Bool) : Parser Bool := do
  let rooted ← separated "," do
    let atRoot ← if crateRoot then take? "::" else pure false
    return (← g.useTree (crateRoot && !atRoot)) || atRoot
  return rooted.any id

-- Tells whether a part of the tree starts at the root of the crate.
def useTree (g : Grammar) (crateRoot : Bool) : Parser Bool := do
  if ← sees (.group .brace) then return ← within .brace (useGroup g crateRoot)
  if ← seesAny useWords then useName g
  else if !(← take? "*") then failExpecting (useWords ++ ([.sign "*", .group .brace] : List Look))
  return false

-- Imports from the root of the crate that stand in braces are shown as they are written.
def useItem (g : Grammar) (start : Cursor) : Parser Unit := do
  discard visibility
  expect "use"
  let leading ← take? "::"
  let rooted ← g.useTree !leading
  expect ";"
  if rooted then showAsWritten start

def externCrate : Parser Unit := do
  discard visibility
  expect "extern"
  expect "crate"
  if !(← take? "self") then discard ident
  if ← take? "as" then
    if !(← take? "_") then discard ident
  expect ";"

def fullItem (g : Grammar) : Parser Item := do
  let start ← get
  outerAttributes g
  g.item start

def module (g : Grammar) : Parser Unit := do
  discard visibility
  discard (take? "unsafe")
  expect "mod"
  if !(← take? "try") then discard ident
  if ← take? ";" then return
  if !(← sees (.group .brace)) then failExpecting [";", .group .brace]
  within .brace do
    innerAttributes g
    discard (untilEmpty (fullItem g))

-- What other functions, constants and types cannot have is shown as it is written.
def foreignFunction (g : Grammar) (start : Cursor) : Parser Unit := do
  discard visibility
  let isSafe ← signature g true
  let hasBody ← sees (.group .brace)
  if hasBody then body g else expect ";"
  if isSafe || hasBody then showAsWritten start

def foreignStatic (g : Grammar) (start : Cursor) : Parser Unit := do
  discard visibility
  let isUnsafe ← take? "unsafe"
  let isSafe ← if isUnsafe then pure false else take? "safe"
  expect "static"
  discard (take? "mut")
  discard ident
  expect ":"
  discard (g.type true)
  let hasValue ← take? "="
  if hasValue then discard (g.expr true)
  expect ";"
  if isUnsafe || isSafe || hasValue then showAsWritten start

def foreignType (g : Grammar) (start : Cursor) : Parser Unit := do
  let parts ← typeItem g false ⟨true, true⟩
  if parts.bounded || parts.defined then showAsWritten start

-- Looks at what follows the visibility of an item: how visible it is, and the tokens behind that.
def behindVisibility : Parser (Bool × List Token) := do
  let c ← get
  let visible ← visibility
  let ts ← ahead
  set c
  return (visible, ts)

-- Looks at tokens further ahead as if they stood here.
def lookingAt {α} (ts : List Token) (p : Parser α) : Parser α := do
  let c ← get
  set { c with rest := ts }
  let a ← p
  set c
  return a

def foreignWords : List Look :=
  ["fn", "static", "type"]

def foreignItem (g : Grammar) : Parser Unit := do
  let start ← get
  outerAttributes g
  let (visible, ts) ← behindVisibility
  let starts (l : Look) := l.at? ts
  let startsWith2 (l : Look) := l.at? (Token.skip ts)
  if starts "fn" || (← lookingAt ts (startsFunction true)) then foreignFunction g start
  else if starts "static" || (starts "unsafe" || starts "safe") && startsWith2 "static" then
    foreignStatic g start
  else if starts "type" then foreignType g start
  else if !visible && pathWords.any starts then invocation
  else lookingAt ts (failExpecting (foreignWords ++ if visible then [] else pathWords))

def foreignModule (g : Grammar) : Parser Unit := do
  discard (take? "unsafe")
  expect "extern"
  discard (take? .stringLiteral)
  within .brace do
    innerAttributes g
    discard (untilEmpty (foreignItem g))

-- `extern` can start a foreign module, or the import of a crate.
def externItem (g : Grammar) (behind : List Token) : Parser Unit := do
  let ts := Token.skip behind
  let second := Token.skip ts
  let is (ts : List Token) (l : Look) : Bool := l.at? ts
  if is ts "crate" then externCrate
  else if is ts (.group .brace) then foreignModule g
  else if is ts .stringLiteral then
    if is second (.group .brace) then foreignModule g
    else lookingAt second (failExpecting [.group .brace])
  else lookingAt ts (failExpecting ["crate", .group .brace, .stringLiteral])

def traitFunction (g : Grammar) : Parser Unit := do
  discard (signature g false)
  if ← sees (.group .brace) then body g
  else if !(← take? ";") then failExpecting [.group .brace, ";"]

def traitConst (g : Grammar) (start : Cursor) : Parser Unit := do
  let ts := Token.skip (← ahead)
  let any (ls : List Look) : Bool := ls.any (·.at? ts)
  if any [.ident, "_"] then
    expect "const"
    discard anyIdent
    constantRest g start false
  else if any ["async", "unsafe", "extern", "fn"] then traitFunction g
  else lookingAt ts (failExpecting [.ident, "_", "async", "unsafe", "extern", "fn"])

-- What traits and implementations consist of.
def memberWords : List Look :=
  ["fn", "const", "type"]

-- Everything in a trait is as visible as the trait, and a default for the rest. Where that is said all the
-- same, the item is shown as it is written.
def traitItem (g : Grammar) : Parser Unit := do
  let start ← get
  outerAttributes g
  let visible ← visibility
  let hasDefault ← take? "default"
  let bare := !visible && !hasDefault
  if (← sees "fn") || (← startsFunction false) then traitFunction g
  else if ← sees "const" then traitConst g start
  else if ← sees "type" then discard (typeItem g false ⟨false, true⟩)
  else if bare && (← seesAny pathWords) then invocation
  else failExpecting (memberWords ++ if bare then pathWords else [])
  if !bare then showAsWritten start

-- A trait behind its generic parameters.
def traitRest (g : Grammar) : Parser Unit := do
  boundsBehindColon (boundsUpTo g true ["where", .group .brace])
  whereClause g
  within .brace do
    innerAttributes g
    discard (untilEmpty (traitItem g))

def traitHead (g : Grammar) : Parser Unit := do
  expect "trait"
  discard ident
  generics g

def qualifiedTrait (g : Grammar) : Parser Unit := do
  discard visibility
  discard (take? "unsafe")
  discard (take? "auto")
  traitHead g
  traitRest g

def trait (g : Grammar) : Parser Unit := do
  discard visibility
  traitHead g
  if ← seesAny [.group .brace, ":", "where"] then traitRest g
  else if ← take? "=" then
    boundsUpTo g false ["where", ";"]
    whereClause g
    expect ";"
  else failExpecting [.group .brace, ":", "where", "="]

-- A function without a body is shown as it is written.
def bodyOrNone (g : Grammar) (start : Cursor) : Parser Unit := do
  if ← take? ";" then showAsWritten start else body g

def implFunction (g : Grammar) (start : Cursor) : Parser Unit := do
  discard visibility
  discard (take? "default")
  discard (signature g false)
  bodyOrNone g start

def implConst (g : Grammar) (start : Cursor) (hasDefault : Bool) : Parser Unit := do
  discard visibility
  if hasDefault then expect "default"
  expect "const"
  constantName
  constantRest g start true

def implItem (g : Grammar) : Parser Unit := do
  let start ← get
  outerAttributes g
  let (visible, ts) ← behindVisibility
  let hasDefault := (("default" : Look).at? ts) && !(("!" : Look).at? (Token.skip ts))
  let behind := if hasDefault then Token.skip ts else ts
  let starts (l : Look) := l.at? behind
  let bare := !visible && !hasDefault
  if starts "fn" || (← lookingAt behind (startsFunction false)) then implFunction g start
  else if starts "const" then implConst g start hasDefault
  else if starts "type" then typeAlias g start true ⟨false, true⟩
  else if bare && pathWords.any starts then invocation
  else
    let words := if hasDefault then memberWords else .word "default" :: memberWords
    lookingAt behind (failExpecting (words ++ if bare then pathWords else []))

-- What is implemented, and for which type. Tells whether what is implemented is a trait with a plain name, or
-- nothing but the members of a type.
def implTarget (g : Grammar) : Parser Bool := do
  let pos ← here
  let negative := (← sees "!") && !(← sees2 (.group .brace))
  if negative then expect "!"
  let t ← g.type true
  if ← take? "for" then
    discard (g.type true)
    return t.shape.isPlainPath
  if negative then failAt pos "inherent impls cannot be negative"
  return true

-- A visible or constant implementation is shown as it is written.
def implementation (g : Grammar) (start : Cursor) : Parser Unit := do
  let visible ← visibility
  discard (take? "default")
  discard (take? "unsafe")
  expect "impl"
  if startsGenerics (← ahead) then generics g
  let isConst := (← sees "const") || (← sees "?") && (← sees2 "const")
  if isConst then
    discard (take? "?")
    expect "const"
  let plain ← implTarget g
  whereClause g
  within .brace do
    innerAttributes g
    discard (untilEmpty (implItem g))
  if visible || isConst || !plain then showAsWritten start

def function (g : Grammar) (start : Cursor) : Parser Unit := do
  discard visibility
  discard (signature g false)
  bodyOrNone g start

def macroDefinition (start : Cursor) : Parser Unit := do
  discard visibility
  expect "macro"
  discard ident
  let hasParameters ← take? (.group .parenthesis)
  if !(← take? (.group .brace)) then
    failExpecting (if hasParameters then [.group .brace] else [.group .parenthesis, .group .brace])
  showAsWritten start

-- `unsafe` stands in front of a trait, an implementation, or a module.
def unsafeItem (g : Grammar) (start : Cursor) (behind : List Token) : Parser Unit := do
  let ts := Token.skip behind
  let starts (l : Look) := l.at? ts
  if starts "trait" || starts "auto" && ("trait" : Look).at? (Token.skip ts) then qualifiedTrait g
  else if starts "impl" then implementation g start
  else if starts "extern" then foreignModule g
  else if starts "mod" then module g
  else lookingAt ts (failExpecting ["trait", "auto", "impl", "extern", "mod"])

def itemWords : List Look :=
  ["fn", "extern", "use", "static", "const", "unsafe", "mod", "type", "struct", "enum", "union",
    "trait", "auto", "impl", "default", "macro"]

-- An item behind its attributes, which begin at a cursor.
def item (g : Grammar) (start : Cursor) : Parser Item := do
  let (visible, ts) ← behindVisibility
  let second := Token.skip ts
  let starts (l : Look) := l.at? ts
  let then2 (l : Look) := l.at? second
  let other (p : Parser Unit) : Parser Item := do p; return .other
  if starts "fn" || (← lookingAt ts (startsFunction false)) then other (function g start)
  else if starts "extern" then other (externItem g ts)
  else if starts "use" then other (useItem g start)
  else if starts "static" then other (staticItem g start)
  else if starts "const" then other (constItem g start)
  else if starts "unsafe" then other (unsafeItem g start ts)
  else if starts "mod" then other (module g)
  else if starts "type" then other (typeAlias g start false ⟨true, false⟩)
  else if starts "struct" then record g
  else if starts "enum" then other (enumeration g)
  else if starts "union" && then2 .ident then other (union g)
  else if starts "trait" then other (trait g)
  else if starts "auto" && then2 "trait" then other (qualifiedTrait g)
  else if starts "impl" || starts "default" && !then2 "!" then other (implementation g start)
  else if starts "macro" then other (macroDefinition start)
  else if !visible && pathWords.any starts then other itemInvocation
  else lookingAt ts (failExpecting (itemWords ++ if visible then [] else pathWords))

end EnvConfig.Source.Rule
