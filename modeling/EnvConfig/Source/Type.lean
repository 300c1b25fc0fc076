import EnvConfig.Source.Path

-- Types, the bounds of types, and generic parameters.

namespace EnvConfig.Source.Rule

open EnvConfig.Source.Parser

-- A colon without anything behind it is not shown.
def boundsBehindColon (list : Parser Unit) : Parser Unit :=
  shownBeyond 1 (do if ← take? ":" then list)

def lifetimeParameter : Parser Unit := do
  expect .lifetime
  boundsBehindColon (listWhile "+" (return (← isEmpty) || (← seesAny [",", ">"])) (expect .lifetime))

def typeParameter (g : Grammar) : Parser Unit := do
  discard ident
  boundsBehindColon (listWhile "+" (return (← isEmpty) || (← seesAny [",", ">", "="]))
    (discard (g.bound ⟨false, true⟩)))
  if ← take? "=" then discard (g.type true)

def constParameter (g : Grammar) : Parser Unit := do
  expect "const"
  discard ident
  expect ":"
  discard (g.type true)
  if ← take? "=" then constArgument g

-- Tells whether a parameter is a lifetime. A parameter without a name has nothing behind it.
def genericParameter (g : Grammar) : Parser Bool := do
  outerAttributes g
  if ← sees .lifetime then
    lifetimeParameter
    return true
  if ← sees .ident then typeParameter g
  else if ← sees "const" then constParameter g
  else if !(← take? "_") then failExpecting [.lifetime, .ident, "const"]
  return false

-- A list without parameters is not shown.
def generics (g : Grammar) : Parser Unit := do
  if ← sees "<" then shownBeyond 2 (discard (inAngles (expect ",") (genericParameter g)))

def boundParameter (g : Grammar) : Parser Unit := do
  outerAttributes g
  if ← sees .ident then typeParameter g
  else if ← sees .lifetime then lifetimeParameter
  else if ← sees "const" then constParameter g
  else failExpecting [.ident, .lifetime, "const"]

-- A binder introduces lifetimes.
def binder (g : Grammar) : Parser Unit := do
  expect "for"
  expect "<"
  listUpTo ">" "," (boundParameter g)
  expect ">"

-- Whether `<` starts generic parameters, where a qualified path could also stand.
def startsGenerics (ts : List Token) : Bool :=
  let second := Token.skip ts
  let third  := Token.skip second
  let starts (ls : List Look) (ts : List Token) := ls.any (·.at? ts)
  starts ["<"] ts &&
    (starts [">", "#", "const"] second ||
      starts [.lifetime, .ident] second &&
        (starts [">", ",", "="] third || starts [":"] third && !starts ["::"] third))

def predicateEnds : Parser Bool := do
  if (← isEmpty) || (← seesAny [.group .brace, ",", ";", "="]) then return true
  return (← sees ":") && !(← sees "::")

def wherePredicate (g : Grammar) : Parser Unit := do
  if (← sees .lifetime) && (← sees2 ":") then
    expect .lifetime
    expect ":"
    listWhile "+" (return (← isEmpty) || (← seesAny [.group .brace, ",", ";", ":", "="]))
      (expect .lifetime)
  else
    if ← sees "for" then binder g
    discard (g.type true)
    expect ":"
    listWhile "+" predicateEnds (discard (g.bound ⟨false, true⟩))

-- A clause without predicates is not shown.
def whereClause (g : Grammar) : Parser Unit :=
  shownBeyond 1 do
    if ← take? "where" then
      if startsGenerics (← ahead) then
        fail "generic parameters on `where` clauses are reserved for future use"
      listWhile "," predicateEnds (wherePredicate g)

def captureList : Parser Unit :=
  discard <| inAngles (do if !(← take? ",") then failExpecting [",", ">"]) do
    let isLifetime ← take? .lifetime
    if !(isLifetime || (← takeAny? [.ident, "Self"])) then failExpecting [.lifetime, .ident, ">"]
    return isLifetime

def withoutEmptyArguments (ts : List Token) : List Token :=
  let isColon : Token → Bool
    | .punct ':' _ _ => true
    | _              => false
  ((ts.reverse.drop 2).dropWhile isColon).reverse

-- Arguments in parentheses stand instead of empty ones in angle brackets, and need no `::` in front.
def traitPath (g : Grammar) : Parser Unit := do
  let (p, tokens) ← captured (path g false)
  let arguments := p.segments.getLast?.elim .absent (·.arguments)
  let called := (← sees (.group .parenthesis)) || (← sees "::") && (← sees3 (.group .parenthesis))
  if arguments = .given || !called then write tokens
  else
    write (if arguments = .empty then withoutEmptyArguments tokens else tokens)
    discard (hidden (take? "::"))
    parenArguments g

-- Tells whether a bound is a constant one.
def constMark (constants : Bool) : Parser Bool := do
  let start ← here
  if ← sees (.group .bracket) then
    within .bracket (expect "const")
    if !constants then failAt start "`[const]` is not allowed here"
    return true
  if ← take? "const" then
    if !constants then failAt start "`const` is not allowed here"
    return true
  return false

def traitBound (g : Grammar) (constants : Bool) : Parser Bool := do
  let bound ← sees "for"
  if bound then binder g
  let isConst ← constMark constants
  let mark ← here
  let relaxed ← take? "?"
  let bound := bound || relaxed && (← sees "for")
  if relaxed && (← sees "for") then binder g
  traitPath g
  if relaxed && bound then
    failAt mark "`for<...>` binder not allowed with `?` trait polarity modifier"
  return isConst

def bound (g : Grammar) (rules : BoundRules) : Parser BoundKind := do
  let start ← get
  let pos ← here
  if ← take? .lifetime then return .lifetime pos
  if ← take? "use" then
    captureList
    if !rules.captures then failAt pos "`use<...>` precise capturing syntax is not allowed here"
    return .capture pos
  let isConst ←
    if ← sees (.group .parenthesis) then within .parenthesis (traitBound g rules.constants)
    else traitBound g rules.constants
  if isConst then showAsWritten start
  return .trait

def startsBound : Parser Bool :=
  seesAny [.anyIdent, "::", "?", .lifetime, .group .parenthesis]

-- Bounds with a `+` between two, and perhaps one behind the last. Whether a `+` follows a bound is looked
-- at only where one may.
def bounds (g : Grammar) (rules : BoundRules) (plus : Bool) : Parser (List BoundKind) := do
  let kinds ← loop (fun kinds => do
    let kinds := (← g.bound rules) :: kinds
    if !plus then return (kinds, false)
    if !(← take? "+") then return (kinds, false)
    return (kinds, (← startsBound) || (← seesAny [.group .bracket, "const"]))) []
  return kinds.reverse

def requireTrait (start : Nat) (message : String) (kinds : List BoundKind) : Parser Unit := do
  if !kinds.contains .trait then failAt start message

def objectBounds (g : Grammar) (start : Nat) (plus : Bool) : Parser Unit := do
  requireTrait start "at least one trait is required for an object type" (← bounds g ⟨false, false⟩ plus)

def abi : Parser Unit := do
  if ← take? "extern" then discard (take? .stringLiteral)

-- A receiver that is mutable is shown as it is written, with its type. It may also stand where the type of a
-- named argument is expected.
def functionTypeArgument (g : Grammar) (isFirst : Bool) : Parser Unit := do
  outerAttributes g
  let start ← get
  let mutFirst := isFirst && (← sees "mut") && (← sees2 "self")
  if mutFirst then expect "mut"
  let isSelf := isFirst && (← sees "self")
  let named := (isSelf || (← seesAny [.ident, "_"])) && (← sees2 ":") && !(← sees2 "::")
  if named then
    discard anyIdent
    expect ":"
  let mutBehind := isFirst && !(named && isSelf) && (← sees "mut") && (← sees2 "self")
  if mutBehind then
    expect "mut"
    expect "self"
  else if mutFirst && !named then expect "self"
  else discard (g.type true)
  if mutFirst || mutBehind then showAsWritten start

def functionTypeArguments (g : Grammar) : Parser Unit :=
  discard (loop (fun isFirst => do
    if ← isEmpty then return (isFirst, false)
    outerAttributes g
    let named := (← seesAny [.ident, "_"]) && (← sees2 ":") && (← sees3 "...")
    if (← sees "...") || named then
      if named then
        discard anyIdent
        expect ":"
      expect "..."
      discard (take? ",")
      return (false, false)
    functionTypeArgument g isFirst
    if ← isEmpty then return (false, false)
    expect ","
    return (false, true)) true)

-- A function type behind its binder.
def functionType (g : Grammar) : Parser Unit := do
  discard (take? "unsafe")
  abi
  expect "fn"
  within .parenthesis (functionTypeArguments g)
  returnType g false

-- Further bounds behind a `+`. Tells whether there are any.
def furtherBounds (g : Grammar) : Parser Bool :=
  loop (fun any => do
    if !(← take? "+") then return (any, false)
    discard (g.bound ⟨false, false⟩)
    return (true, true)) false

inductive ParenContent where
  | nothing
  | lifetimes
  | relaxedBound
  | tuple
  | type (shape : TypeShape)

def parenContent (g : Grammar) : Parser ParenContent := do
  if ← isEmpty then return .nothing
  if ← sees .lifetime then
    objectBounds g (← here) true
    return .lifetimes
  if ← sees "?" then
    discard (traitBound g false)
    return .relaxedBound
  let first ← g.type true
  if !(← take? ",") then return .type first.shape
  discard (separated "," (g.type true))
  return .tuple

-- Of two pairs of parentheses around a bound only one is shown.
def singlyEnclosed : Token → Token
  | .group d [.group .parenthesis ts _ _] start stop => .group d ts start stop
  | t => t

def parenType (g : Grammar) (plus : Bool) : Parser TypeShape := do
  let (content, tokens) ← captured (within .parenthesis (parenContent g))
  let isSum := plus && (← sees "+")
  match content, isSum with
  | .type .bareBound, true | .type (.path false _), true =>
    write (if content matches .type .bareBound then tokens.map singlyEnclosed else tokens)
    discard (furtherBounds g)
    return .other
  | .relaxedBound, _ =>
    write tokens
    return if ← furtherBounds g then .other else .bareBound
  | _, _ =>
    write tokens
    match content with
    | .type shape => return .paren shape
    | .lifetimes  => return .paren .other
    | _           => return .other

-- A path as a type, behind the binder that is given. With a binder in front or a `+` behind, it is a bound.
-- An invocation has no binder.
def pathType (g : Grammar) (plus bound : Bool) (binder : List Token) : Parser TypeShape := do
  let ((qualified, p), tokens) ← captured (qualifiedPath g false)
  if !qualified && (← sees "!") && !(← sees "!=") && p.hasNoArguments then
    write tokens
    expect "!"
    discard delimited
    return .other
  write (binder ++ tokens)
  if qualified then return .path true p
  if !(bound || plus && (← sees "+") && !(← sees "+=")) then return .path false p
  let more ← if plus then sees "+" else pure false
  if more then
    loop (fun _ => do
      if !(← take? "+") then return ((), false)
      if !(← startsBound) then return ((), false)
      discard (g.bound ⟨false, false⟩)
      return ((), true)) ()
    return .other
  return .bareBound

def pointerType (g : Grammar) : Parser TypeShape := do
  expect "*"
  if !(← takeAny? ["const", "mut"]) then failExpecting ["const", "mut"]
  discard (g.type false)
  return .other

def referenceType (g : Grammar) : Parser TypeShape := do
  expect "&"
  discard (take? .lifetime)
  discard (take? "mut")
  discard (g.type false)
  return .other

def listType (g : Grammar) : Parser TypeShape := do
  within .bracket do
    discard (g.type true)
    if ← take? ";" then discard (g.expr true)
  return .other

def startsBuiltin : Parser Bool := do
  return (← sees "builtin") && (← sees2 "#")

-- What the compiler builds in has tokens of its own.
def builtin : Parser Unit := do
  expect "builtin"
  expect "#"
  discard ident
  expect (.group .parenthesis)

def boundPath : List Look :=
  [.ident, "fn", "unsafe", "extern", "super", "self", "Self", "crate"]

-- Whether there is a binder in front of a type, and its tokens.
def typeBinder (g : Grammar) : Parser (Bool × List Token) := do
  if !(← sees "for") then return (false, [])
  let (_, tokens) ← captured (binder g)
  if !(← seesAny boundPath) || (← sees "dyn") then failExpecting boundPath
  return (true, tokens)

def objectType (g : Grammar) (start : Cursor) (pos : Nat) (plus : Bool) : Parser TypeShape := do
  expect "dyn"
  let starred ← take? "*"
  objectBounds g pos plus
  if starred then showAsWritten start
  return .other

def typeShape (g : Grammar) (plus : Bool) : Parser TypeShape := do
  let start ← get
  let (bound, binder) ← typeBinder g
  if ← sees (.group .parenthesis) then return ← parenType g plus
  if ← seesAny ["fn", "unsafe", "extern"] then
    write binder
    functionType g
    return .other
  if ← startsBuiltin then
    builtin
    showAsWritten start
    return .other
  if ← seesAny [.ident, "super", "self", "Self", "crate", "::", "<"] then
    return ← pathType g plus bound binder
  let pos ← here
  if ← sees "dyn" then return ← objectType g start pos plus
  if ← sees (.group .bracket) then return ← listType g
  if ← sees "*" then return ← pointerType g
  if ← sees "&" then return ← referenceType g
  if (← sees "!") && !(← sees "=") then
    expect "!"
    return .other
  if ← take? "impl" then
    requireTrait pos "at least one trait must be specified" (← bounds g ⟨true, true⟩ plus)
    return .other
  if ← take? "_" then return .other
  if ← sees .lifetime then
    objectBounds g pos true
    return .other
  failExpecting ["for", .group .parenthesis, "fn", "unsafe", "extern", .ident, "::", "<", "dyn",
    .group .bracket, "*", "&", "!", "impl", "_", .lifetime]

def type (g : Grammar) (plus : Bool) : Parser TypeExpr := do
  let (shape, tokens) ← recorded (typeShape g plus)
  return ⟨shape, tokens⟩

end EnvConfig.Source.Rule
