import EnvConfig.Source.Pattern

-- Expressions of operators and operands.

namespace EnvConfig.Source.Rule

open EnvConfig.Source.Parser

-- A longer operator stands before each one that it starts with.
def operators : List (String × Precedence) := [
  ("+=", .assign), ("-=", .assign), ("*=", .assign), ("/=", .assign), ("%=", .assign), ("^=", .assign),
  ("&=", .assign), ("|=", .assign), ("<<=", .assign), (">>=", .assign), ("&&", .and), ("||", .or),
  ("<<", .shift), (">>", .shift), ("==", .compare), ("<=", .compare), ("!=", .compare),
  (">=", .compare), ("+", .sum), ("-", .sum), ("*", .product), ("/", .product), ("%", .product),
  ("^", .bitXor), ("&", .bitAnd), ("|", .bitOr), ("<", .compare), (">", .compare)]

def operator? (ts : List Token) : Option (String × Precedence) :=
  operators.find? fun (sign, _) => (Look.sign sign).at? ts

def nextPrecedence : Parser Precedence := do
  if let some (_, p) := operator? (← ahead) then return p
  if (← sees "=") && !(← sees "=>") then return .assign
  if ← sees ".." then return .range
  if ← sees "as" then return .cast
  return .jump

-- The right operand of an operator: what binds more strongly than the operator, or as strongly if the
-- operator is an assignment. Some operators cannot follow, so that a round may read nothing.
def rightOperand (g : Grammar) (struct : Bool) (p : Precedence) : Parser Unit := do
  let kind ← g.unary struct
  discard (loop (fun kind => do
    let next ← nextPrecedence
    if !(next.rank > p.rank || next = p && p = .assign) then return (kind, false)
    let before := (← ahead).length
    let kind ← g.binary struct kind next
    return (kind, (← ahead).length < before)) kind)

-- Signs behind which a half open range has no end.
def rangeEnds : List Look :=
  [",", ";", "?", "=>", "=", "+", "/", "%", "^", ">", "<=", "!=", "-=", "*=", "&=", "|=", "<<=", "as"]

def rangeEnd (g : Grammar) (struct : Bool) (limits : RangeLimits) : Parser Unit := do
  let ends := (← isEmpty) || (← seesAny rangeEnds) || (← sees ".") && !(← sees "..") ||
    !struct && (← sees (.group .brace))
  if !(limits = .halfOpen && ends) then rightOperand g struct .range

-- Nothing that reaches into a value may follow a cast.
def checkCast : Parser Unit := do
  let behind ←
    if (← sees ".") && !(← sees "..") then
      if ← sees2 "await" then pure "`.await`"
      else if (← sees2 .ident) && ((← sees3 (.group .parenthesis)) || (← sees3 "::")) then
        pure "a method call"
      else pure "a field access"
    else if ← sees "?" then pure "`?`"
    else if ← sees (.group .bracket) then pure "indexing"
    else if ← sees (.group .parenthesis) then pure "a function call"
    else return ()
  fail ("casts cannot be followed by " ++ behind)

-- One operator with its right operand, if one follows that binds at least as strongly as `base`.
def binaryStep (g : Grammar) (struct : Bool) (base : Precedence) (lhs : ExprKind) :
    Parser (ExprKind × Bool) := do
  if lhs = .range then return (lhs, false)
  if let some (sign, p) := operator? (← ahead) then
    if p.rank < base.rank then return (lhs, false)
    if p = .compare && lhs = .comparison then fail "comparison operators cannot be chained"
    expect (.sign sign)
    rightOperand g struct p
    return (if p = .compare then .comparison else .other, true)
  if base.rank ≤ Precedence.assign.rank && (← sees "=") && !(← sees "=>") then
    expect "="
    rightOperand g struct .assign
    return (.other, true)
  if base.rank ≤ Precedence.range.rank && (← sees "..") then
    rangeEnd g struct (← rangeLimits false)
    return (.range, true)
  if base.rank ≤ Precedence.cast.rank && (← sees "as") then
    expect "as"
    discard (g.type false)
    checkCast
    return (.other, true)
  return (lhs, false)

def binary (g : Grammar) (struct : Bool) (lhs : ExprKind) (base : Precedence) : Parser ExprKind :=
  loop (binaryStep g struct base) lhs

def expr (g : Grammar) (struct : Bool) : Parser ExprKind := do
  g.binary struct (← g.unary struct) .jump

end EnvConfig.Source.Rule
