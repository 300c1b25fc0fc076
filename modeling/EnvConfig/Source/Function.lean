import EnvConfig.Source.Statement

-- Functions: their signatures and bodies. Whether an item is visible is read here too, as all items share
-- that.

namespace EnvConfig.Source.Rule

open EnvConfig.Source.Parser

-- The place in which something is visible, in parentheses. Parentheses around anything else belong to what
-- follows.
def restriction : Parser Bool := do
  if ← seesAny ["crate", "self", "super"] then
    discard anyIdent
    return ← isEmpty
  if ← take? "in" then
    discard modPath
    return true
  return false

-- Whether an item says how visible it is.
def visibility : Parser Bool := do
  if !(← take? "pub") then return false
  if ← sees (.group .parenthesis) then
    match ← attempt (within .parenthesis restriction) with
    | some (true, c)  => accept c
    | some (false, _) => pure ()
    | none            => discard (within .parenthesis restriction)
  return true

-- The receiver of a method, and its position.
def receiver (g : Grammar) : Parser Nat := do
  let reference ← take? "&"
  if reference then discard (take? .lifetime)
  discard (take? "mut")
  let pos ← here
  expect "self"
  if ← sees "::" then fail "expected `:`"
  if !reference then
    if ← take? ":" then discard (g.type true)
  return pos

inductive Parameter where
  | receiver (pos : Nat)
  | variadic
  | other
  deriving DecidableEq

def parameter (g : Grammar) : Parser Parameter := do
  outerAttributes g
  if ← take? "..." then return .variadic
  if let some (pos, c) ← attempt (receiver g) then
    accept c
    return .receiver pos
  -- A type without a pattern is an old form, which is shown with a pattern.
  if (← sees .ident) && (← sees2 "<") then
    write (.ident (.plain "_") 0 :: Token.ofSign ":")
    discard (g.type true)
    return .other
  discard g.pattern
  expect ":"
  if ← take? "..." then return .variadic
  discard (g.type true)
  return .other

-- Only the first parameter can be a receiver, and only the last one variadic.
def parameters (g : Grammar) : Parser Unit :=
  discard (loop (fun (isFirst, hasReceiver) => do
    if ← isEmpty then return ((false, hasReceiver), false)
    let p ← parameter g
    if let .receiver pos := p then
      if hasReceiver then failAt pos "unexpected second method receiver"
      if !isFirst then failAt pos "unexpected method receiver"
    let hasReceiver := hasReceiver || p matches .receiver _
    if ← isEmpty then return ((false, hasReceiver), false)
    expect ","
    return ((false, hasReceiver), p != .variadic)) (true, false))

-- What may stand in front of a function. A foreign function may also be called safe, and whether it is.
def qualifiers (allowSafe : Bool) : Parser Bool := do
  discard (take? "const")
  discard (take? "async")
  let isUnsafe ← take? "unsafe"
  let isSafe ← if allowSafe && !isUnsafe then take? "safe" else pure false
  abi
  return isSafe

def startsFunction (allowSafe : Bool) : Parser Bool := do
  match ← attempt (do discard (qualifiers allowSafe); sees "fn") with
  | some (isFunction, _) => return isFunction
  | none                 => return false

def signature (g : Grammar) (allowSafe : Bool) : Parser Bool := do
  let isSafe ← qualifiers allowSafe
  expect "fn"
  discard ident
  generics g
  within .parenthesis (parameters g)
  returnType g true
  whereClause g
  return isSafe

end EnvConfig.Source.Rule
