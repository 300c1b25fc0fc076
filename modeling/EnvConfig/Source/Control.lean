import EnvConfig.Source.Operator

-- Expressions that are blocks, or choose among blocks.

namespace EnvConfig.Source.Rule

open EnvConfig.Source.Parser

-- A block without attributes of its own, and one that may have some.
def block (g : Grammar) : Parser Unit :=
  within .brace g.statements

def blockBody (g : Grammar) : Parser Unit :=
  within .brace (do innerAttributes g; g.statements)

def label : Parser Unit := do
  if ← take? .lifetime then expect ":"

def ifExpr (g : Grammar) : Parser Unit := do
  loop (fun _ => do
    expect "if"
    discard (g.expr false)
    block g
    if !(← take? "else") then return ((), false)
    if ← sees "if" then return ((), true)
    if !(← sees (.group .brace)) then failExpecting ["if", .group .brace]
    block g
    return ((), false)) ()

def whileExpr (g : Grammar) : Parser Unit := do
  expect "while"
  discard (g.expr false)
  blockBody g

def forExpr (g : Grammar) : Parser Unit := do
  expect "for"
  discard (alternatives g)
  expect "in"
  discard (g.expr false)
  blockBody g

def loopExpr (g : Grammar) : Parser Unit := do
  expect "loop"
  blockBody g

-- Attributes in front of something, and how that is shown together with them: a range in parentheses, and
-- what is shown as it is written without any attributes.
def withAttributes (attributes : List Token) (isRange isAsWritten : Bool) (ts : List Token) :
    List Token :=
  if attributes.isEmpty || isAsWritten then ts
  else if isRange then attributes ++ [Token.inParentheses ts]
  else attributes ++ ts

-- The attributes of an arm's value belong to the operand that it starts with.
def armValue (g : Grammar) : Parser ExprKind := do
  let (_, attributes) ← captured (outerAttributes g)
  let (e, tokens) ← captured g.leading
  write (withAttributes attributes (e.first = .range) (e.first = .asWritten) tokens)
  return e.whole

-- An arm needs a comma behind it unless it is a block or the last one.
def arm (g : Grammar) : Parser Unit := do
  outerAttributes g
  discard (alternatives g)
  if ← take? "if" then discard (g.expr true)
  expect "=>"
  let kind ← armValue g
  if kind = .block || (← isEmpty) then discard (take? ",") else expect ","

def matchExpr (g : Grammar) : Parser Unit := do
  expect "match"
  discard (g.expr false)
  within .brace do
    innerAttributes g
    discard (untilEmpty (arm g))

def tryBlock (g : Grammar) : Parser Unit := do
  expect "try"
  block g

def unsafeBlock (g : Grammar) : Parser Unit := do
  expect "unsafe"
  blockBody g

def labeled (g : Grammar) : Parser Unit := do
  label
  if ← sees "while" then whileExpr g
  else if ← sees "for" then forExpr g
  else if ← sees "loop" then loopExpr g
  else if ← sees (.group .brace) then blockBody g
  else fail "expected loop or block expression"

-- A `for` with generics behind it is the binder of a closure.
def startsBinder : Parser Bool := do
  return (← sees "for") && startsGenerics (Token.skip (← ahead))

end EnvConfig.Source.Rule
