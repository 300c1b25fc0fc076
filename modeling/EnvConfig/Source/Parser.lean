import EnvConfig.Source.Token

-- Reading syntax from tokens: where a reader stands, how it looks ahead, how it fails, and how what it has
-- read is shown.

namespace EnvConfig.Source

-- Why a text is not of the expected form, and the position of the token at which that shows.
structure SyntaxError where
  message : String
  pos     : Nat
  deriving DecidableEq, Repr

-- A token that was left over at the end of a group, which is an error only if nothing else is.
structure Leftover where
  pos       : Nat
  delimiter : Delimiter

-- Where a reader stands: before the tokens `rest`, behind which the enclosing group ends at position
-- `stop`. What has been read of the group is shown by the tokens `shown`, the last one first. They need not
-- be the ones that have been read.
structure Cursor where
  rest     : List Token
  stop     : Nat
  leftover : Option Leftover
  shown    : List Token

abbrev Parser := StateT Cursor (Except SyntaxError)

namespace Token

-- The first token is not separate from the name behind it in a lifetime.
def skip : List Token → List Token
  | .punct '\'' true _ :: .ident .. :: ts => ts
  | _ :: ts => ts
  | []      => []

-- Words that cannot be identifiers unless they are raw.
def keywords : List String := [
  "_", "abstract", "as", "async", "await", "become", "box", "break", "const", "continue", "crate", "do",
  "dyn", "else", "enum", "extern", "false", "final", "fn", "for", "if", "impl", "in", "let", "loop",
  "macro", "match", "mod", "move", "mut", "override", "priv", "pub", "ref", "return", "Self", "self",
  "static", "struct", "super", "trait", "true", "try", "type", "typeof", "unsafe", "unsized", "use",
  "virtual", "where", "while", "yield"]

end Token

def Ident.isKeyword (i : Ident) : Bool :=
  !i.raw && Token.keywords.contains i.name

-- What may stand at the start of some tokens, and how a message calls it.
inductive Look where
  | word (text : String)
  | sign (text : String)
  | ident
  | anyIdent
  | lifetime
  | literal
  | stringLiteral
  | group (delimiter : Delimiter)

namespace Look

-- A sign matches its characters if each but the last is joint with the next, whatever follows the last.
def signRest : List Char → List Token → Option (List Token)
  | [],      ts => some ts
  | [c],     .punct d _ _ :: ts => if c = d then some ts else none
  | c :: cs, .punct d joint _ :: ts => if c = d && joint then signRest cs ts else none
  | _,       _ => none

-- A literal that starts with a digit is a number: a float if a point or the digits of an exponent follow
-- its digits, else an integer.
def isNumber (text : String) : Bool :=
  text.toList.head?.any Char.isDigit

def isFloat (text : String) : Bool :=
  let digitOrUnderscore (c : Char) := c.isDigit || c == '_'
  isNumber text &&
    match text.toList.dropWhile digitOrUnderscore with
    | '.' :: _  => true
    | 'e' :: cs => exponent cs
    | 'E' :: cs => exponent cs
    | _         => false
where
  exponent (cs : List Char) : Bool :=
    match cs.dropWhile (· == '_') with
    | c :: _ => c.isDigit || c == '+' || c == '-'
    | []     => false

def isInt (text : String) : Bool :=
  isNumber text && !isFloat text

def isStringText (text : String) : Bool :=
  text.startsWith "\"" || text.startsWith "r"

-- The tokens behind what is looked for, if it is there.
def rest? (l : Look) (ts : List Token) : Option (List Token) :=
  match l, ts with
  | word w,        .ident i _ :: ts  => if i.isPlain w then some ts else none
  | sign s,        ts                => signRest s.toList ts
  | ident,         .ident i _ :: ts  => if i.isKeyword then none else some ts
  | anyIdent,      .ident .. :: ts   => some ts
  | lifetime,      .punct '\'' true _ :: .ident .. :: ts => some ts
  | literal,       .literal .. :: ts => some ts
  | literal,       .ident i _ :: ts  => if i.isPlain "true" || i.isPlain "false" then some ts else none
  | literal,       .punct '-' _ _ :: .literal t _ :: ts => if isNumber t then some ts else none
  | stringLiteral, .literal t _ :: ts => if isStringText t then some ts else none
  | group d,       .group e .. :: ts => if d = e then some ts else none
  | _,             _                 => none

def at? (l : Look) (ts : List Token) : Bool :=
  (l.rest? ts).isSome

-- The number of tokens that are taken if what is looked for is there.
def width : Look → List Token → Nat
  | sign s,   _             => s.length
  | lifetime, _             => 2
  | literal,  .punct .. :: _ => 2
  | _,        _             => 1

def describe : Look → String
  | word w              => "`" ++ w ++ "`"
  | sign s              => "`" ++ s ++ "`"
  | ident               => "identifier"
  | anyIdent            => "ident"
  | lifetime            => "lifetime"
  | literal             => "literal"
  | stringLiteral       => "string literal"
  | group .parenthesis  => "parentheses"
  | group .brace        => "curly braces"
  | group .bracket      => "square brackets"
  | group .invisible    => "invisible group"

end Look

instance : Coe String Look where
  coe s := if (s.toList.head?.any fun c => c.isAlpha || c == '_') then .word s else .sign s

namespace Parser

def ahead : Parser (List Token) :=
  return (← get).rest

def sees (l : Look) : Parser Bool :=
  return l.at? (← ahead)

-- Whether the second or the third token is as given. Signs of several characters are as many tokens.
def sees2 (l : Look) : Parser Bool :=
  return l.at? (Token.skip (← ahead))

def sees3 (l : Look) : Parser Bool :=
  return l.at? (Token.skip (Token.skip (← ahead)))

def seesAny (ls : List Look) : Parser Bool :=
  return ls.any (·.at? (← ahead))

def isEmpty : Parser Bool :=
  return (← ahead).isEmpty

-- The position that a message points at: the next token's, or the end of the group.
def here : Parser Nat := do
  let c ← get
  return c.rest.head?.elim c.stop (·.pos)

def failAt {α} (pos : Nat) (message : String) : Parser α :=
  throw ⟨message, pos⟩

-- A message about the next token says so where there is none.
def fail {α} (message : String) : Parser α := do
  let message := if ← isEmpty then "unexpected end of input, " ++ message else message
  failAt (← here) message

-- None of the given things is there in the way that is needed. Those that are there all the same are not
-- named.
def failExpecting {α} (ls : List Look) : Parser α := do
  let ts ← ahead
  match ls.filter (!·.at? ts) with
  | []     =>
    let message := if ← isEmpty then "unexpected end of input" else "unexpected token"
    failAt (← here) message
  | [a]    => fail ("expected " ++ a.describe)
  | [a, b] => fail ("expected " ++ a.describe ++ " or " ++ b.describe)
  | ls     => fail ("expected one of: " ++ ", ".intercalate (ls.map Look.describe))

-- Reads some tokens, which are shown as they are.
def advance (n : Nat) : Parser Unit :=
  modify fun c => { c with rest := c.rest.drop n, shown := (c.rest.take n).reverse ++ c.shown }

def take? (l : Look) : Parser Bool := do
  let ts ← ahead
  if l.at? ts then
    advance (l.width ts)
    return true
  else return false

-- Takes the first of the given things that is there.
def takeAny? : List Look → Parser Bool
  | []      => return false
  | l :: ls => do
    if ← take? l then return true
    takeAny? ls

-- A missing sign is named alone. What else is missing is named together with a missing rest of the input.
def expect (l : Look) : Parser Unit := do
  unless ← take? l do
    match l with
    | .sign _  => failAt (← here) ("expected " ++ l.describe)
    | .group _ => fail ("expected " ++ l.describe)
    | _        => fail ("expected " ++ l.describe)

def ident : Parser Ident := do
  match ← ahead with
  | .ident i _ :: _ =>
    if i.isKeyword then fail ("expected identifier, found keyword `" ++ i.name ++ "`")
    else
      advance 1
      return i
  | _ => fail "expected identifier"

def anyIdent : Parser Ident := do
  match ← ahead with
  | .ident i _ :: _ => advance 1; return i
  | _               => fail "expected ident"

-- Notes a token that a reader has left over, unless one has been noted before.
def noteLeftover (ts : List Token) (d : Delimiter) : Parser Unit :=
  modify fun c =>
    match c.leftover, ts with
    | none, t :: _ => { c with leftover := some ⟨t.pos, d⟩ }
    | _,    _      => c

-- Reads the tokens of a group with the given reader.
def within {α} (d : Delimiter) (p : Parser α) : Parser α := do
  match ← ahead with
  | .group e inner start stop :: ts =>
    if d = e then
      let outer ← get
      set { outer with rest := inner, stop := stop, shown := [] }
      let a ← p
      noteLeftover (← ahead) d
      modify fun c => { c with
        rest  := ts
        stop  := outer.stop
        shown := .group d c.shown.reverse start stop :: outer.shown }
      return a
    else fail ("expected " ++ (Look.group d).describe)
  | _ => fail ("expected " ++ (Look.group d).describe)

-- Runs a reader and gives back its result, if it has one, without moving on.
def attempt {α} (p : Parser α) : Parser (Option (α × Cursor)) := do
  let c ← get
  match p.run { c with leftover := none } with
  | .ok (a, c') => return some (a, c')
  | .error _    => return none

-- Moves on to where an attempt has ended.
def accept (c' : Cursor) : Parser Unit :=
  modify fun c => { c' with leftover := c.leftover <|> c'.leftover }

def write (ts : List Token) : Parser Unit :=
  modify fun c => { c with shown := ts.reverse ++ c.shown }

-- What a reader reads, and the tokens by which it is shown, which are not written yet.
def captured {α} (p : Parser α) : Parser (α × List Token) := do
  let outer := (← get).shown
  modify fun c => { c with shown := [] }
  let a ← p
  let inner := (← get).shown
  modify fun c => { c with shown := outer }
  return (a, inner.reverse)

def recorded {α} (p : Parser α) : Parser (α × List Token) := do
  let (a, ts) ← captured p
  write ts
  return (a, ts)

-- Reads something that is not shown.
def hidden {α} (p : Parser α) : Parser α := do
  return (← captured p).1

-- Reads something that is shown only if that takes more than some tokens.
def shownBeyond {α} (n : Nat) (p : Parser α) : Parser α := do
  let (a, ts) ← captured p
  if ts.length > n then write ts
  return a

-- Shows all that has been read since a reader stood elsewhere as it is written.
def showAsWritten (start : Cursor) : Parser Unit :=
  modify fun c =>
    let ts := start.rest.take (start.rest.length - c.rest.length)
    { c with shown := ts.reverse ++ start.shown }

-- Repeats a reader until it asks to stop. A round that reads no token ends the repetition.
def loop {α} (p : α → Parser (α × Bool)) (a : α) : Parser α := do
  go (← ahead) a
where
  -- There is one round for each token at most.
  go : List Token → α → Parser α
    | [],      a => return (← p a).1
    | _ :: ts, a => do
      let (a, again) ← p a
      if again then go ts a else return a

-- Reads items up to the end of the group, with a separator between two.
def separated {α} (separator : Look) (p : Parser α) : Parser (List α) := do
  let items ← loop (fun items => do
    if ← isEmpty then return (items, false)
    let a ← p
    if ← isEmpty then return (a :: items, false)
    expect separator
    return (a :: items, true)) []
  return items.reverse

def untilEmpty {α} (p : Parser α) : Parser (List α) := do
  let items ← loop (fun items => do
    if ← isEmpty then return (items, false)
    return ((← p) :: items, true)) []
  return items.reverse

-- Reads all of the given tokens. What is left over is an error, the first in a group before the rest of
-- the text.
def runAll {α} (p : Parser α) (ts : List Token) : Except SyntaxError α := do
  let (a, c) ← p.run ⟨ts, 0, none, []⟩
  match c.leftover, c.rest with
  | some l, _ => throw ⟨"unexpected token, expected `" ++ l.delimiter.closing ++ "`", l.pos⟩
  | none, t :: _ => throw ⟨"unexpected token", t.pos⟩
  | none, [] => return a

end Parser
end EnvConfig.Source
