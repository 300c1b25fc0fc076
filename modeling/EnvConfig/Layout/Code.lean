import EnvConfig.Layout.Document

-- How code is laid out: documents for the pieces of syntax that a loader module consists of.

namespace EnvConfig.Layout.Code

open Document

-- A name with generic arguments.
def generic (name : String) (arguments : List Document) : Document :=
  text (name ++ "<") ++ commaSeparated arguments ++ text ">"

def call (function : Document) (arguments : List Document) : Document :=
  function ++ text "(" ++ commaSeparated arguments ++ text ")"

-- A call whose only argument is a block of some kind, which needs no group of its own.
def callBlock (function : String) (argument : Document) : Document :=
  text (function ++ "(") ++ argument ++ text ")"

-- A tuple, of which a single item has a comma behind it in any case.
def tuple (ds : List Document) : Document :=
  match ds with
  | [d] =>
    let last := breaking { offset := -indentation }
    text "(" ++ together indentation (zero ++ d ++ text "," ++ last) ++ text ")"
  | _   => text "(" ++ commaSeparated ds ++ text ")"

structure Method where
  name      : Document
  arguments : Document

def method (name : String) (arguments : List Document) : Method where
  name      := text ("." ++ name)
  arguments := commaSeparated arguments

-- A method with a block of some kind as its only argument.
def methodBlock (name : String) (argument : Document) : Method where
  name      := text ("." ++ name)
  arguments := argument

-- Calls of methods one after the other. If they do not fit onto a line, each stands on a line of its own.
def chain (receiver : String) (methods : List Method) : Document :=
  together indentation (together (-indentation) (text receiver) ++ methods.flatMap fun m =>
    zero ++ m.name ++ together 0 (text "(" ++ m.arguments ++ text ")"))

-- A function of one argument, given in place. Its body gets braces if it stands on a line of its own.
def closure (argument : String) (body : Document) : Document :=
  let last := breaking { offset := -indentation, after := "\x7d" }
  closureHead argument ++
    together indentation (breaking { before := "\x7b" } ++ body ++ last)
where
  closureHead (argument : String) : Document :=
    filled 0 (text "|" ++ zero ++ text (argument ++ "|") ++
      breaking { blanks := 1, offset := indentation }) ++ never

-- Lines with a group of their own, each but the last with the end of a line behind it.
def block (statements : List Document) : Document :=
  match statements with
  | [] => text "\x7b\x7d"
  | _  => text "\x7b" ++ together indentation (line ++ separatedBy line statements ++ lastLine) ++
    text "\x7d"

-- A statement is a group of its own.
def statement (d : Document) : Document :=
  filled 0 d

-- The value of a variable stands behind the equality sign in any case.
def letStatement (pattern value : Document) : Document :=
  statement (text "let " ++ pattern ++ text " = " ++ never ++ value ++ text ";")

-- An arm whose value is no block gets braces if the value stands on a line of its own.
def arm (pattern value : Document) : Document :=
  let last := breaking { offset := -indentation, after := "\x7d", instead := "," }
  filled 0 (pattern ++ text " => " ++ never ++
    together indentation (breaking { before := "\x7b" } ++ value ++ last))

def armBlock (pattern : Document) (statements : List Document) : Document :=
  filled 0 (pattern ++ text " => \x7b" ++ never ++
    together indentation (line ++ separatedBy line statements ++ lastLine) ++ text "\x7d")

def matchOn (value : Document) (arms : List Document) : Document :=
  let body := match arms with
    | [] => []
    | _  => together indentation (line ++ separatedBy line arms ++ lastLine)
  filled 0 (text "match " ++ together 0 (value ++ text " ") ++ text "\x7b" ++ never ++ body ++
    text "\x7d")

-- The widest literal that may stand on one line, up to its closing brace.
def literalWidth : Nat :=
  34

def field (name : String) (value : Document) : Document :=
  text (name ++ ": ") ++ filled 0 value

-- A record without fields. If its name is too long, its closing brace stands on a line of its own, unless
-- the name does not even fit onto the line.
def emptyLiteral (type : String) : Document :=
  let head := filled (-indentation) (text type) ++ text " \x7b"
  if Document.width head + 1 ≤ literalWidth then head ++ text "\x7d"
  else
    together indentation (head ++ breaking { offset := -indentation, ifRoom := true } ++ [.wide]) ++
      text "\x7d"

-- A record with its fields.
def literal (type : String) (fields : List Document) : Document :=
  match fields with
  | [] => emptyLiteral type
  | _  =>
    let content := filled (-indentation) (text type) ++ text " \x7b" ++ space ++
      separatedBy (text "," ++ space) fields ++ trailingComma 1
    let content := if Document.width content > literalWidth then content ++ [.wide] else content
    together indentation content ++ text "\x7d"

end EnvConfig.Layout.Code
