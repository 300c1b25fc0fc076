import EnvConfig.Source.Control

-- Operands: expressions that are no operation, and what reaches into their values.

namespace EnvConfig.Source.Rule

open EnvConfig.Source.Parser

def canBeginExpr : Parser Bool := do
  if ← seesAny [.anyIdent, .group .parenthesis, .group .bracket, .group .brace, .literal, "..", "::",
      .lifetime, "#"] then return true
  if (← sees "!") && !(← sees "!=") then return true
  if (← sees "-") && !(← seesAny ["-=", "->"]) then return true
  if (← sees "*") && !(← sees "*=") then return true
  if (← sees "|") && !(← sees "|=") then return true
  if (← sees "&") && !(← sees "&=") then return true
  return (← sees "<") && !(← seesAny ["<=", "<<="])

def optionalExpr (g : Grammar) : Parser Unit := do
  if ← canBeginExpr then discard (g.expr true)

def arguments (g : Grammar) : Parser Unit :=
  discard (within .parenthesis (separated "," (g.expr true)))

def fieldValue (g : Grammar) : Parser Unit := do
  outerAttributes g
  let m ← member
  if (← sees ":") || m = .index then
    expect ":"
    discard (g.expr true)

-- The fields of a record, behind which another record may give the rest.
def fieldValues (g : Grammar) : Parser Unit :=
  loop (fun _ => do
    if ← isEmpty then return ((), false)
    if ← take? ".." then
      if !(← isEmpty) then discard (g.expr true)
      return ((), false)
    fieldValue g
    if ← isEmpty then return ((), false)
    expect ","
    return ((), true)) ()

def pathExpr (g : Grammar) (struct : Bool) : Parser ExprKind := do
  let (qualified, p) ← qualifiedPath g true
  if !qualified && (← sees "!") && !(← sees "!=") && p.hasNoArguments then
    expect "!"
    return .invocation ((← delimited) = .brace)
  if struct && (← sees (.group .brace)) then within .brace (fieldValues g)
  return .other

def arrayContent (g : Grammar) : Parser Unit := do
  if ← isEmpty then return
  discard (g.expr true)
  if ← isEmpty then return
  if ← take? "," then discard (separated "," (g.expr true))
  else if ← take? ";" then discard (g.expr true)
  else fail "expected `,` or `;`"

def closureArgument (g : Grammar) : Parser Unit := do
  let (_, attributes) ← captured (outerAttributes g)
  let (kind, tokens) ← captured g.pattern
  if ← sees ":" then
    write (attributes ++ tokens)
    expect ":"
    discard (g.type true)
  else
    write (withAttributes attributes (kind matches .range _) (kind = .asWritten) tokens)

def closure (g : Grammar) (struct : Bool) : Parser Unit := do
  if ← sees "for" then binder g
  discard (take? "const")
  discard (take? "static")
  discard (take? "async")
  discard (take? "move")
  expect "|"
  listUpTo "|" "," (closureArgument g)
  expect "|"
  if ← take? "->" then
    discard (g.type true)
    block g
  else discard (g.expr struct)

-- A labeled loop behind `break` needs parentheses, as the label could be that of the loop to leave.
def breakExpr (g : Grammar) (struct : Bool) : Parser Unit := do
  expect "break"
  let start ← here
  if (← sees .lifetime) && (← sees2 ":") then
    discard (g.expr true)
    failAt start "parentheses required"
  discard (take? .lifetime)
  if struct || !(← sees (.group .brace)) then optionalExpr g

def letExpr (g : Grammar) (struct : Bool) : Parser Unit := do
  expect "let"
  discard (alternatives g)
  expect "="
  let kind ← g.unary struct
  discard (g.binary struct kind .compare)

def startsClosure : Parser Bool := do
  if ← seesAny ["|", "move", "static"] then return true
  if ← startsBinder then return true
  if (← sees "const") && !(← sees2 (.group .brace)) then return true
  return (← sees "async") && ((← sees2 "|") || (← sees2 "move"))

def startsAsyncBlock : Parser Bool := do
  return (← sees "async") &&
    ((← sees2 (.group .brace)) || (← sees2 "move") && (← sees3 (.group .brace)))

def startsPathExpr : Parser Bool := do
  if ← seesAny [.ident, "::", "<", "self", "Self", "super", "crate"] then return true
  return (← sees "try") && ((← sees2 "!") || (← sees2 "::"))

-- The expression is of a kind that is known once it has been read.
def ofKind (kind : ExprKind) (p : Parser Unit) : Parser ExprKind := do
  p
  return kind

def asyncBlock (g : Grammar) : Parser Unit := do
  expect "async"
  discard (take? "move")
  block g

def atom (g : Grammar) (struct : Bool) : Parser ExprKind := do
  if ← take? .literal then return .other
  if ← startsAsyncBlock then return ← ofKind .other (asyncBlock g)
  if (← sees "try") && (← sees2 (.group .brace)) then return ← ofKind .block (tryBlock g)
  if ← startsClosure then return ← ofKind .other (closure g struct)
  if ← startsBuiltin then return ← ofKind .asWritten builtin
  if ← startsPathExpr then return ← pathExpr g struct
  if ← sees (.group .parenthesis) then return ← ofKind .other (arguments g)
  if ← sees "break" then return ← ofKind .other (breakExpr g struct)
  if ← take? "continue" then return ← ofKind .other (discard (take? .lifetime))
  if ← take? "return" then return ← ofKind .other (optionalExpr g)
  if ← take? "become" then return ← ofKind .asWritten (discard (g.expr true))
  if ← sees (.group .bracket) then return ← ofKind .other (within .bracket (arrayContent g))
  if ← sees "let" then return ← ofKind .other (letExpr g struct)
  if ← sees "if" then return ← ofKind .block (ifExpr g)
  if ← sees "while" then return ← ofKind .block (whileExpr g)
  if ← sees "for" then return ← ofKind .block (forExpr g)
  if ← sees "loop" then return ← ofKind .block (loopExpr g)
  if ← sees "match" then return ← ofKind .block (matchExpr g)
  if ← take? "yield" then return ← ofKind .other (optionalExpr g)
  if ← sees "unsafe" then return ← ofKind .block (unsafeBlock g)
  if ← sees "const" then return ← ofKind .block (constBlock g)
  if ← sees (.group .brace) then return ← ofKind .block (blockBody g)
  if ← sees ".." then
    return ← ofKind .range (do rangeEnd g struct (← rangeLimits false))
  if ← take? "_" then return .other
  if ← sees .lifetime then return ← ofKind .block (labeled g)
  fail "expected an expression"

-- A point and what it reaches: a position, an awaited value, a method or a field.
def memberAccess (g : Grammar) : Parser Unit := do
  expect "."
  if (← indices?) == some false then return
  if ← take? "await" then return
  let m ← member
  if m = .named then
    let turbofish ← sees "::"
    if turbofish then
      expect "::"
      discard (angleArguments g)
    if turbofish || (← sees (.group .parenthesis)) then arguments g

-- Calls, members, elements and question marks behind an operand.
def trailers (g : Grammar) (kind : ExprKind) : Parser ExprKind :=
  loop (fun kind => do
    if ← sees (.group .parenthesis) then
      arguments g
      return (.other, true)
    if (← sees ".") && !(← sees "..") && kind != .range then
      memberAccess g
      return (.other, true)
    if ← sees (.group .bracket) then
      discard (within .bracket (g.expr true))
      return (.other, true)
    if kind = .range then return (kind, false)
    if ← take? "?" then return (.other, true)
    return (kind, false)) kind

-- A reference may be a raw one, which says whether it is a constant one.
def reference (g : Grammar) (struct : Bool) : Parser Unit := do
  expect "&"
  let raw := (← sees "raw") && ((← sees2 "mut") || (← sees2 "const"))
  if raw then
    expect "raw"
    if !(← take? "mut") then expect "const"
  else discard (take? "mut")
  discard (g.unary struct)

def unary (g : Grammar) (struct : Bool) : Parser ExprKind := do
  let start ← get
  let attributed ← sees "#"
  outerAttributes g
  let pos ← here
  if ← sees "&" then return ← ofKind .other (reference g struct)
  if ← takeAny? ["*", "!", "-"] then return ← ofKind .other (discard (g.unary struct))
  let kind ← trailers g (← atom g struct)
  if attributed && kind = .range then
    failAt pos "attributes are not allowed on range expressions starting with `..`"
  if kind = .asWritten then showAsWritten start
  return kind

-- What a block at the start of a statement or an arm looks like.
def leadingBlock? (g : Grammar) : Parser (Option (Parser Unit)) := do
  if ← sees "if" then return some (ifExpr g)
  if ← sees "while" then return some (whileExpr g)
  if (← sees "for") && !(← startsBinder) then return some (forExpr g)
  if ← sees "loop" then return some (loopExpr g)
  if ← sees "match" then return some (matchExpr g)
  if (← sees "try") && (← sees2 (.group .brace)) then return some (tryBlock g)
  if ← sees "unsafe" then return some (unsafeBlock g)
  if (← sees "const") && (← sees2 (.group .brace)) then return some (constBlock g)
  if ← sees (.group .brace) then return some (blockBody g)
  if ← sees .lifetime then return some (labeled g)
  return none

-- A block at the start of a statement or an arm ends it, unless a member or a question mark follows.
def leading (g : Grammar) : Parser Leading := do
  match ← leadingBlock? g with
  | none   =>
    let first ← g.unary true
    return ⟨first, ← g.binary true first .jump⟩
  | some p =>
    p
    if (← sees ".") && !(← sees "..") || (← sees "?") then
      let first ← trailers g .block
      return ⟨first, ← g.binary true first .jump⟩
    else return .only .block

end EnvConfig.Source.Rule
