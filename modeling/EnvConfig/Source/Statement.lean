import EnvConfig.Source.Expr

-- Statements.

namespace EnvConfig.Source.Rule

open EnvConfig.Source.Parser

-- Whether tokens end in braces.
def endsInBraces (ts : List Token) : Bool :=
  match ts.getLast? with
  | some (.group .brace ..) => true
  | _                       => false

-- The block that a refutable pattern needs does not follow an expression that ends in braces.
def initializer (g : Grammar) : Parser Unit := do
  if !(← take? "=") then return
  let (_, tokens) ← recorded (g.expr true)
  if !endsInBraces tokens && (← sees "else") then
    expect "else"
    block g

def letStatement (g : Grammar) : Parser Unit := do
  expect "let"
  discard g.pattern
  if ← take? ":" then discard (g.type true)
  initializer g
  expect ";"

-- An invocation can be an item, if a name follows its sign, or else a statement, if it has braces and no
-- member of its value is asked for.
inductive LeadingPath where
  | itemInvocation
  | braced
  | other

def leadingPath : Parser LeadingPath := do
  match ← attempt modPath with
  | none        => return .other
  | some (_, c) =>
    let second := Token.skip c.rest
    let third := Token.skip second
    let is (ts : List Token) (l : Look) : Bool := l.at? ts
    if !is c.rest "!" then return .other
    if is second .ident || is second "try" then return .itemInvocation
    if is second (.group .brace) && !(is third "." && !is third ".." || is third "?") then
      return .braced
    return .other

def functionWords : List Look :=
  ["unsafe", "extern", "fn"]

-- Words that start items only together with what is behind them.
def startsQualifiedItem : Parser Bool := do
  let ts ← ahead
  let second := Token.skip ts
  let third := Token.skip second
  let any (ts : List Token) (ls : List Look) : Bool := ls.any (·.at? ts)
  if any ts ["crate"] then return !any second ["::"]
  if any ts ["static"] then return any second ["mut", .ident]
  if any ts ["const"] then
    let asyncValue := any second ["async"] && !any third functionWords
    return !(any second [.group .brace, "static", "move", "|"] || asyncValue)
  if any ts ["unsafe"] then return !any second [.group .brace]
  if any ts ["async"] then return any second functionWords
  if any ts ["union"] then return any second [.ident]
  if any ts ["auto"] then return any second ["trait"]
  if any ts ["default"] then return any second ["unsafe", "impl"]
  return false

def startsItem : Parser Bool := do
  if ← seesAny ["pub", "extern", "use", "fn", "mod", "type", "struct", "enum", "trait", "impl",
      "macro"] then return true
  startsQualifiedItem

-- An expression and its semicolon, or else what must stand behind it. The attributes of the statement belong
-- to a range as a whole, and to the operand that any other expression starts with.
def exprStatement (g : Grammar) (attributes : List Token) : Parser Bool := do
  let (e, tokens) ← captured g.leading
  let isRange := e.whole = .range
  write (withAttributes attributes isRange (!isRange && e.first = .asWritten) tokens)
  if ← take? ";" then return false
  return e.whole != .block && e.whole != .invocation true

def bracedInvocation : Parser Unit := do
  discard modPath
  expect "!"
  discard delimited
  discard (take? ";")

-- A statement, and whether a semicolon is missing unless it is the last one of its block.
def statement (g : Grammar) : Parser Bool := do
  let start ← get
  let (_, attributes) ← captured (outerAttributes g)
  let path ← leadingPath
  let complete (p : Parser Unit) : Parser Bool := do
    write attributes
    p
    return false
  if path matches .braced then complete bracedInvocation
  else if path matches .itemInvocation then complete (discard (g.item start))
  else if ← sees "let" then complete (letStatement g)
  else if ← startsItem then complete (discard (g.item start))
  else exprStatement g attributes

def semicolons : Parser Unit :=
  loop (fun _ => return ((), ← take? ";")) ()

def statements (g : Grammar) : Parser Unit :=
  loop (fun _ => do
    semicolons
    if ← isEmpty then return ((), false)
    let unfinished ← statement g
    if ← isEmpty then return ((), false)
    if unfinished then failAt (← here) "unexpected token, expected `;`"
    return ((), true)) ()

end EnvConfig.Source.Rule
