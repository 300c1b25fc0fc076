import EnvConfig.Source.Angled

-- Paths, their generic arguments, and the predicates of attributes.

namespace EnvConfig.Source.Rule

open EnvConfig.Source.Parser

def returnType (g : Grammar) (plus : Bool) : Parser Unit := do
  if ← take? "->" then discard (g.type plus)

-- A path of mere names, any word that may stand in a path included.
def modPath : Parser Path := do
  let leading ← take? "::"
  let (segments, trailing) ← loop (fun (segments, _) => do
    if !(← seesAny [.ident, "super", "self", "Self", "crate"]) then
      return ((segments, !segments.isEmpty), false)
    let segments := ⟨← anyIdent, .absent⟩ :: segments
    if !(← take? "::") then return ((segments, false), false)
    return ((segments, true), true)) (([] : List Segment), false)
  if segments.isEmpty then discard ident
  if trailing then fail "expected path segment after `::`"
  return ⟨leading, segments.reverse⟩

def startsValue : Parser Bool := do
  return (← sees "=") && !(← seesAny ["==", "=>"])

-- What stands behind the path of an attribute: a list in delimiters, a value, or nothing.
def metaRest (g : Grammar) : Parser Unit := do
  if ← seesAny [.group .parenthesis, .group .bracket, .group .brace] then discard delimited
  else if ← startsValue then
    expect "="
    match Look.literal.rest? (← ahead) with
    | some [] => expect .literal
    | _ =>
      if (← sees "#") && (← sees2 (.group .bracket)) then
        fail "unexpected attribute inside of attribute"
      else discard (g.expr true)

-- The content of an attribute.
def predicate (g : Grammar) : Parser Unit := do
  if !(← take? "unsafe") then discard modPath
  metaRest g

def outerAttribute (g : Grammar) : Parser Unit := do
  expect "#"
  within .bracket (predicate g)

def outerAttributes (g : Grammar) : Parser Unit :=
  loop (fun _ => do
    if !(← sees "#") then return ((), false)
    outerAttribute g
    return ((), true)) ()

def innerAttributes (g : Grammar) : Parser Unit :=
  loop (fun _ => do
    if !((← sees "#") && (← sees2 "!")) then return ((), false)
    expect "#"
    expect "!"
    within .bracket (predicate g)
    return ((), true)) ()

def constArgument (g : Grammar) : Parser Unit := do
  if ← take? .literal then return
  if ← take? .ident then return
  if ← sees (.group .brace) then
    return ← within .brace (do innerAttributes g; g.statements)
  failExpecting []

-- A type that is a mere name, with or without generic arguments of its own, may be a name of the trait.
def namesAssociated (t : TypeExpr) : Bool :=
  match t.shape with
  | .path false p => !p.leading && p.segments.length == 1
  | _             => false

def typeArgument (g : Grammar) : Parser Unit := do
  if ← seesAny [.literal, .group .brace] then return ← constArgument g
  let t ← g.type true
  if !namesAssociated t then return
  if ← take? "=" then
    if ← seesAny [.literal, .group .brace] then constArgument g
    else discard (g.type true)
  else if ← take? ":" then
    listWhile "+" (seesAny [",", ">"]) (discard (g.bound ⟨false, true⟩))

-- Tells whether an argument is a lifetime, which can also start a type, a sum of bounds.
def genericArgument (g : Grammar) : Parser Bool := do
  if (← sees .lifetime) && !(← sees2 "+") then
    expect .lifetime
    return true
  typeArgument g
  return false

def angleArguments (g : Grammar) : Parser GenericArguments := do
  let n ← inAngles (expect ",") (genericArgument g)
  return if n = 0 then .empty else .given

def parenArguments (g : Grammar) : Parser Unit := do
  discard (within .parenthesis (separated "," (g.type true)))
  returnType g false

-- In expressions generic arguments need a further `::` in front, as `<` is an operator there.
def startsArguments (inExpr : Bool) : Parser Bool := do
  if (← sees "::") && (← sees3 "<") then return true
  return !inExpr && (← sees "<") && !(← seesAny ["<=", "<<="])

def segment (g : Grammar) (inExpr : Bool) : Parser Segment := do
  if ← seesAny ["super", "self", "crate", "try"] then return ⟨← anyIdent, .absent⟩
  let i ← if ← sees "Self" then anyIdent else ident
  if ← startsArguments inExpr then
    discard (take? "::")
    return ⟨i, ← angleArguments g⟩
  return ⟨i, .absent⟩

def path (g : Grammar) (inExpr : Bool) : Parser Path := do
  let leading ← take? "::"
  let first ← segment g inExpr
  let segments ← loop (fun segments => do
    if !((← sees "::") && !(← sees3 (.group .parenthesis))) then return (segments, false)
    expect "::"
    return ((← segment g inExpr) :: segments, true)) [first]
  return ⟨leading, segments.reverse⟩

-- A path and whether a type qualifies it.
def qualifiedPath (g : Grammar) (inExpr : Bool) : Parser (Bool × Path) := do
  if !(← take? "<") then return (false, ← path g inExpr)
  discard (g.type true)
  if ← take? "as" then discard (path g false)
  expect ">"
  expect "::"
  let segments ← loop (fun segments => do
    let segments := (← segment g inExpr) :: segments
    return (segments, ← take? "::")) []
  return (true, ⟨false, segments.reverse⟩)

end EnvConfig.Source.Rule
