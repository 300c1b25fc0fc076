import EnvConfig.Text.NameChar

-- Tokens of a source file. Groups are already matched: a token is a leaf or a pair of delimiters with the
-- tokens between them.

namespace EnvConfig.Source

-- Nothing but a word is an identifier, keywords and the underscore included.
structure Ident where
  name : String
  raw  : Bool
  word : Text.isWord name.toList
  deriving DecidableEq, Repr

namespace Ident

def plain (name : String) (word : Text.isWord name.toList := by decide) : Ident where
  name := name
  raw  := false
  word := word

def isPlain (i : Ident) (name : String) : Bool :=
  !i.raw && i.name == name

-- A raw identifier is written with a marker in front. The marker is not part of its name.
def text (i : Ident) : String :=
  if i.raw then "r#" ++ i.name else i.name

end Ident

inductive Delimiter where
  | parenthesis
  | brace
  | bracket
  | invisible
  deriving DecidableEq, Repr

namespace Delimiter

def opening : Delimiter → String
  | parenthesis => "("
  | brace       => "\x7b"
  | bracket     => "["
  | invisible   => ""

def closing : Delimiter → String
  | parenthesis => ")"
  | brace       => "\x7d"
  | bracket     => "]"
  | invisible   => ""

end Delimiter

-- Every token knows where it starts, counted in characters from the start of the text. A group also knows
-- where its closing delimiter stands. A punctuation character is joint if another one follows at once.
inductive Token where
  | ident   (ident : Ident) (pos : Nat)
  | punct   (char : Char) (joint : Bool) (pos : Nat)
  | literal (text : String) (pos : Nat)
  | group   (delimiter : Delimiter) (inner : List Token) (start stop : Nat)
  deriving Repr

namespace Token

def pos : Token → Nat
  | ident _ p | punct _ _ p | literal _ p | group _ _ p _ => p

-- A sign as tokens, one for each of its characters.
def ofSign (sign : String) : List Token :=
  go sign.toList
where
  go : List Char → List Token
    | []      => []
    | c :: cs => .punct c (!cs.isEmpty) 0 :: go cs

def inParentheses (ts : List Token) : Token :=
  .group .parenthesis ts 0 0

mutual

-- The tokens one after the other, without any space between them.
def denseText : Token → String
  | ident i _     => i.text
  | punct c _ _   => c.toString
  | literal t _   => t
  | group d ts .. => d.opening ++ denseTexts ts ++ d.closing

def denseTexts : List Token → String
  | []      => ""
  | t :: ts => t.denseText ++ denseTexts ts

end

mutual

-- The number of tokens, those inside groups and the groups' own delimiters included.
def weight : Token → Nat
  | group _ ts .. => weights ts + 2
  | _             => 1

def weights : List Token → Nat
  | []      => 0
  | t :: ts => t.weight + weights ts

end

end Token
end EnvConfig.Source
