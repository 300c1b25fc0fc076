import EnvConfig.Source.Item
import EnvConfig.Source.Place
import EnvConfig.Source.Scan

-- From texts to syntax: the knot of the grammar, and a reader for each kind of text.

namespace EnvConfig.Source

namespace Grammar

-- Every nonterminal by its rule, which gets the nonterminals in it from `g`.
def unfold (g : Grammar) : Grammar where
  type       := Rule.type g
  bound      := Rule.bound g
  pattern    := Rule.pattern g
  expr       := Rule.expr g
  unary      := Rule.unary g
  binary     := Rule.binary g
  leading    := Rule.leading g
  statements := Rule.statements g
  useTree    := Rule.useTree g
  item       := Rule.item g

def ofDepth (depth : Nat) : Grammar :=
  Nat.repeat unfold depth exhausted

-- No rule uses more than a few nonterminals inside each other before it reads a token.
def forTokens (ts : List Token) : Grammar :=
  ofDepth (8 * (Token.weights ts + 1))

end Grammar

-- Why a text cannot be read, and the place at which that shows.
structure SyntaxProblem where
  message : String
  place   : Place
  deriving DecidableEq, Repr

-- Reads a whole text.
def read {α} (p : Grammar → Parser α) (s : List Char) : Except SyntaxProblem α :=
  match scan s with
  | .error pos => .error ⟨"cannot parse string into token stream", .ofPosition s pos⟩
  | .ok ts     =>
    match Parser.runAll (p (.forTokens ts)) ts with
    | .error e => .error ⟨e.message, .ofPosition s e.pos⟩
    | .ok a    => .ok a

def readType (text : String) : Except SyntaxProblem TypeExpr :=
  read (fun g => Rule.type g true) text.toList

-- Reads a path together with the tokens by which it is shown.
def readPath (text : String) : Except SyntaxProblem (Path × List Token) :=
  read (fun g => Parser.recorded (Rule.path g false)) text.toList

-- Reads the predicate of a gate. The tokens by which it is shown are all that matters.
def readPredicate (text : String) : Except SyntaxProblem (List Token) :=
  read (fun g => do return (← Parser.recorded (Rule.predicate g)).2) text.toList

def readIdent (text : String) : Except SyntaxProblem Ident :=
  read (fun _ => Parser.ident) text.toList

def file (g : Grammar) : Parser (List Item) := do
  Rule.innerAttributes g
  Parser.untilEmpty (Rule.fullItem g)

-- A first line that names an interpreter is not part of the content, unless it is an attribute.
def dropInterpreter (s : List Char) : List Char :=
  match s with
  | '#' :: '!' :: cs =>
    if (Scan.skipSpace cs).head? == some '[' then s else s.dropWhile (· != '\n')
  | _ => s

-- A byte order mark is not part of the content either. Another one would be skipped with the tokens.
def content : List Char → List Char
  | '\ufeff' :: cs => dropInterpreter cs
  | s              => dropInterpreter s

def readFile (text : String) : Except SyntaxProblem (List Item) :=
  read file (content text.toList)

end EnvConfig.Source
