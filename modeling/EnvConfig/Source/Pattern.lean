import EnvConfig.Source.Member
import EnvConfig.Source.Type

-- Patterns.

namespace EnvConfig.Source.Rule

open EnvConfig.Source.Parser

-- Alternatives of patterns, with an optional bar in front.
def alternatives (g : Grammar) : Parser PatternKind := do
  let leading ← take? "|"
  let first ← g.pattern
  let bar : Parser Bool := return (← sees "|") && !(← sees "||") && !(← sees "|=")
  if !(leading || (← bar)) then return first
  loop (fun _ => do
    if !(← bar) then return ((), false)
    expect "|"
    discard g.pattern
    return ((), true)) ()
  return .other

inductive RangeLimits where
  | halfOpen
  | closed
  deriving DecidableEq

-- Three dots are an old form of a closed range, which is shown in the new one.
def rangeLimits (oldForm : Bool) : Parser RangeLimits := do
  if ← take? "..=" then return .closed
  if ← sees "..." then
    if oldForm then
      hidden (expect "...")
      write (Token.ofSign "..=")
      return .closed
    failExpecting ["..="]
  if ← take? ".." then return .halfOpen
  failExpecting ["..", "..="]

def constBlock (g : Grammar) : Parser Unit := do
  expect "const"
  within .brace (do innerAttributes g; g.statements)

-- A bound of a range, unless what follows the pattern stands there.
def rangeBound (g : Grammar) : Parser Bool := do
  if (← isEmpty) || (← seesAny ["|", "=", ",", ";", "if"]) || (← sees ":") && !(← sees "::") then
    return false
  if ← take? .literal then return true
  if ← seesAny [.ident, "::", "<", "self", "Self", "super", "crate"] then
    discard (qualifiedPath g true)
    return true
  if ← sees "const" then
    constBlock g
    return true
  failExpecting [.literal, .ident, "::", "<", "self", "Self", "super", "crate", "const"]

-- A range, from its dots on.
def rangeFrom (g : Grammar) (hasStart : Bool) : Parser PatternKind := do
  let pos ← here
  let limits ← rangeLimits hasStart
  let hasEnd ← rangeBound g
  if limits = .closed && !hasEnd then fail "expected range upper bound"
  if !hasStart && !hasEnd then return .other
  return .range (if hasStart && hasEnd then none else some pos)

def tupleFields (g : Grammar) : Parser Unit :=
  discard (separated "," (alternatives g))

def fieldPattern (g : Grammar) : Parser Unit := do
  let boxed ← take? "box"
  let byRef ← take? "ref"
  let mutable ← take? "mut"
  if boxed || byRef || mutable then discard ident
  else
    match ← member with
    | .named => if ← take? ":" then discard (alternatives g)
    | .index =>
      expect ":"
      discard (alternatives g)

def structFields (g : Grammar) : Parser Unit :=
  loop (fun _ => do
    if ← isEmpty then return ((), false)
    outerAttributes g
    if ← take? ".." then return ((), false)
    fieldPattern g
    if ← isEmpty then return ((), false)
    expect ","
    return ((), true)) ()

def pathPattern (g : Grammar) : Parser PatternKind := do
  let (qualified, p) ← qualifiedPath g true
  if !qualified && (← sees "!") && !(← sees "!=") && p.hasNoArguments then
    expect "!"
    discard delimited
    return .other
  if ← sees (.group .brace) then
    within .brace (structFields g)
    return .other
  if ← sees (.group .parenthesis) then
    within .parenthesis (tupleFields g)
    return .other
  if ← sees ".." then return ← rangeFrom g true
  return .other

def parenPattern (g : Grammar) : Parser PatternKind := do
  within .parenthesis (tupleFields g)
  return .other

def slicePattern (g : Grammar) : Parser PatternKind := do
  discard (within .bracket (separated "," do
    match ← alternatives g with
    | .range (some pos) =>
      failAt pos "range pattern is not allowed unparenthesized inside slice pattern"
    | _ => return ()))
  return .other

def identPattern (g : Grammar) : Parser PatternKind := do
  discard (take? "ref")
  discard (take? "mut")
  if ← sees "self" then discard anyIdent else discard ident
  if ← take? "@" then discard g.pattern
  return .other

def literalPattern (g : Grammar) : Parser PatternKind := do
  discard (rangeBound g)
  if ← sees ".." then rangeFrom g true else return .other

def startsPathPattern : Parser Bool := do
  if ← sees .ident then
    let second := Token.skip (← ahead)
    let behind : List Look := ["::", "!", .group .brace, .group .parenthesis, ".."]
    if behind.any (·.at? second) then return true
  if (← sees "self") && (← sees2 "::") then return true
  seesAny ["::", "<", "Self", "super", "crate"]

def boxPattern (g : Grammar) : Parser PatternKind := do
  let start ← get
  expect "box"
  discard g.pattern
  showAsWritten start
  return .asWritten

def pattern (g : Grammar) : Parser PatternKind := do
  if ← startsPathPattern then return ← pathPattern g
  if ← take? "_" then return .other
  if ← sees "box" then return ← boxPattern g
  if ← seesAny ["-", .literal, "const"] then return ← literalPattern g
  if ← seesAny ["ref", "mut", "self", .ident] then return ← identPattern g
  if ← take? "&" then
    discard (take? "mut")
    discard g.pattern
    return .other
  if ← sees (.group .parenthesis) then return ← parenPattern g
  if ← sees (.group .bracket) then return ← slicePattern g
  if (← sees "..") && !(← sees "...") then return ← rangeFrom g false
  failExpecting [.ident, "::", "<", "_", .literal, "const", "ref", "mut", "&", .group .parenthesis,
    .group .bracket, "..", "const"]

end EnvConfig.Source.Rule
