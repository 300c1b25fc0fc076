import EnvConfig.Primitive
import EnvConfig.Record
import EnvConfig.Text.StringLiteral

-- The language of loaders and their helpers, as far as they make use of it, and how it is written.

namespace EnvConfig.Program

-- What a character of a text is compared with.
inductive CharPattern where
  | one (c : Char)
  | any (cs : List Char)
  deriving DecidableEq, Repr

inductive CharTest where
  | is (c : Char)
  | isDigit
  | not (t : CharTest)
  | either (a b : CharTest)
  deriving DecidableEq, Repr

inductive Literal where
  | string (text : String)
  | number (n : Nat)
  | byte (c : Char)
  | bool (b : Bool)
  | none
  | zeroDuration
  | emptyList
  deriving DecidableEq, Repr

-- What is done to one operand. Only a word is parsed without saying so.
inductive Unary where
  | not
  | borrow
  | some
  | ok
  | isNone
  | isEmpty
  | length
  | bytes
  | lossy
  | owned
  | startsWith (p : CharPattern)
  | stripPrefix (p : CharPattern)
  | trimStart (p : CharPattern)
  | find (t : CharTest)
  | isNamed (name : String)
  | parse (type : Primitive)
  | parseWord
  | isInfinite
  | cast (type : Primitive)
  | convert (narrow : Primitive) (wide : String)
  | ofByte
  | ofNanos
  deriving DecidableEq, Repr

inductive Binary where
  | equals
  | differs
  | atLeast
  | add
  | sub
  | mul
  | div
  | unwrapOr
  | splitAt
  | checkedAdd
  | checkedMul
  | pair
  deriving DecidableEq, Repr

-- What is done to the value in an option, if there is one.
inductive Combinator where
  | filter
  | andThen
  | map
  deriving DecidableEq, Repr

-- The variables that a statement introduces.
inductive Binder where
  | name (isMutable : Bool) (name : String) (type : Option String)
  | pair (first second : String)
  deriving DecidableEq, Repr

mutual

inductive Expr where
  | name     (name : String)
  | literal  (l : Literal)
  | unary    (op : Unary) (e : Expr)
  | binary   (op : Binary) (a b : Expr)
  | both     (a b : Expr)
  | either   (a b : Expr)
  -- The value in an option. Without one, the function returns.
  | orReturn (e : Expr)
  | call     (function : String) (e : Expr)
  | apply    (c : Combinator) (e : Expr) (name : String) (body : Block)
  | onOption (e : Expr) (name : String) (present absent : Block)
  | onText   (e : Expr) (arms : Arms)
  | variable (constant : String)
  | success  (r : Record String)
  | failure  (type : String)
  | leave    (e : Expr)

-- A text is compared with the texts of one arm after the other.
inductive Arms where
  | otherwise (e : Expr)
  | arm       (texts : List String) (e : Expr) (rest : Arms)

-- Statements, each with those behind it. At the end of a block stands its value, if it has one.
inductive Block where
  | value       (e : Expr)
  | done
  | leave       (e : Expr)
  | stop
  | letIn       (b : Binder) (e : Expr) (rest : Block)
  | letFunction (name parameter : String) (body : Expr) (rest : Block)
  | assign      (name : String) (e : Expr) (rest : Block)
  | multiply    (name : String) (e : Expr) (rest : Block)
  | push        (list type variant : String) (rest : Block)
  | onlyIf      (condition : Expr) (body rest : Block)
  | onlyIfAll   (names : List String) (body rest : Block)
  | whileTrue   (condition : Expr) (body rest : Block)
  | forEach     (name : String) (e : Expr) (body rest : Block)

end

-- A function by what stands in front of its body.
structure Function where
  head : String
  body : Block

def genericText (name argument : String) : String :=
  name ++ "<" ++ argument ++ ">"

def callText (function argument : String) : String :=
  function ++ "(" ++ argument ++ ")"

def methodText (receiver method argument : String) : String :=
  receiver ++ "." ++ callText method argument

def closureText (parameter body : String) : String :=
  "|" ++ parameter ++ "| " ++ body

def charText (c : Char) : String :=
  String.ofList ['\'', c, '\'']

def CharPattern.text : CharPattern → String
  | one c  => charText c
  | any cs => "[" ++ ", ".intercalate (cs.map charText) ++ "]"

def CharTest.text : CharTest → String
  | is c       => "c == " ++ charText c
  | isDigit    => "c.is_ascii_digit()"
  | not t      => "!" ++ t.text
  | either a b => a.text ++ " || " ++ b.text

-- Groups of three digits, the last ones first.
def grouped : List Char → List Char
  | a :: b :: c :: d :: ds => a :: b :: c :: '_' :: grouped (d :: ds)
  | ds                     => ds

-- Literals are written in ASCII.
def textLiteral (text : String) : String :=
  let written (c : Char) : List Char := if c.toNat < 128 then [c] else Text.unicodeEscape c
  String.ofList ('"' :: text.toList.flatMap written ++ ['"'])

def Literal.text : Literal → String
  | string t     => textLiteral t
  | number n     => String.ofList (grouped (Nat.toDigits 10 n).reverse).reverse
  | byte c       => "b" ++ charText c
  | bool b       => if b then "true" else "false"
  | none         => "None"
  | zeroDuration => Primitive.duration.typeCode ++ "::ZERO"
  | emptyList    => callText "::std::vec::Vec::new" ""

-- How strongly the parts of an expression hold together, the weakest first.
inductive Level where
  | statement
  | or
  | and
  | compare
  | sum
  | product
  | cast
  | sign
  | primary
  deriving DecidableEq, Repr

def Level.rank : Level → Nat
  | statement => 0
  | or        => 1
  | and       => 2
  | compare   => 3
  | sum       => 4
  | product   => 5
  | cast      => 6
  | sign      => 7
  | primary   => 8

-- The text of an operand, in parentheses if it holds together less strongly than it has to.
def operand (needed actual : Level) (text : String) : String :=
  if actual.rank < needed.rank then "(" ++ text ++ ")" else text

namespace Unary

def level : Unary → Level
  | not | borrow => .sign
  | cast _       => .cast
  | _            => .primary

-- An operand in parentheses of its own can be any expression.
def operandLevel : Unary → Level
  | not | borrow => .sign
  | cast _       => .cast
  | some | convert .. | ofByte | ofNanos => .statement
  | _            => .primary

def text (op : Unary) (e : String) : String :=
  match op with
  | not                 => "!" ++ e
  | borrow              => "&" ++ e
  | some                => callText "Some" e
  | ok                  => methodText e "ok" ""
  | isNone              => methodText e "is_none" ""
  | isEmpty             => methodText e "is_empty" ""
  | length              => methodText e "len" ""
  | bytes               => methodText e "bytes" ""
  | lossy               => methodText e "to_string_lossy" ""
  | owned               => methodText e "into_owned" ""
  | startsWith p        => methodText e "starts_with" p.text
  | stripPrefix p       => methodText e "strip_prefix" p.text
  | trimStart p         => methodText e "trim_start_matches" p.text
  | find t              => methodText e "find" (closureText "c: char" t.text)
  | isNamed name        => methodText e "eq_ignore_ascii_case" (textLiteral name)
  | parse type          => methodText e ("parse::<" ++ type.typeCode ++ ">") ""
  | parseWord           => methodText e "parse" ""
  | isInfinite          => methodText e "is_infinite" ""
  | cast type           => e ++ " as " ++ type.typeCode
  | convert narrow wide =>
    callText ("<" ++ narrow.typeCode ++ " as " ++ genericText "::std::convert::TryFrom" wide ++ ">::try_from") e
  | ofByte              => callText "u128::from" e
  | ofNanos             => callText (Primitive.duration.typeCode ++ "::from_nanos") e

end Unary

namespace Binary

def level : Binary → Level
  | equals | differs | atLeast => .compare
  | add | sub                  => .sum
  | mul | div                  => .product
  | _                          => .primary

-- Operators with the same strength are read from the left, and comparisons not at all.
def leftLevel : Binary → Level
  | equals | differs | atLeast => .sum
  | pair                       => .statement
  | op                         => op.level

def rightLevel : Binary → Level
  | equals | differs | atLeast => .sum
  | add | sub                  => .product
  | mul | div                  => .cast
  | _                          => .statement

def text (op : Binary) (a b : String) : String :=
  match op with
  | equals     => a ++ " == " ++ b
  | differs    => a ++ " != " ++ b
  | atLeast    => a ++ " >= " ++ b
  | add        => a ++ " + " ++ b
  | sub        => a ++ " - " ++ b
  | mul        => a ++ " * " ++ b
  | div        => a ++ " / " ++ b
  | unwrapOr   => methodText a "unwrap_or" b
  | splitAt    => methodText a "split_at" b
  | checkedAdd => methodText a "checked_add" b
  | checkedMul => methodText a "checked_mul" b
  | pair       => "(" ++ a ++ ", " ++ b ++ ")"

end Binary

def Combinator.name : Combinator → String
  | filter  => "filter"
  | andThen => "and_then"
  | map     => "map"

def Binder.text : Binder → String
  | name isMutable x type => (if isMutable then "mut " else "") ++ x ++ type.elim "" (": " ++ ·)
  | pair x y              => "(" ++ x ++ ", " ++ y ++ ")"

def inBraces (text : String) : String :=
  "\x7b " ++ text ++ " \x7d"

-- One item has a comma behind it.
def tupleText : List String → String
  | [item] => "(" ++ item ++ ",)"
  | items  => "(" ++ ", ".intercalate items ++ ")"

-- The condition that there is a value in each of some options.
def presentText (names : List String) : String :=
  "let " ++ tupleText (names.map (callText "Some")) ++ " = " ++ tupleText names

def fieldTexts : Fields String → List String
  | .nil => []
  | .leaf name binding rest => (name.text ++ ": " ++ binding) :: fieldTexts rest
  | .record name type inner rest =>
    (name.text ++ ": " ++ type.text ++ " " ++ inBraces (", ".intercalate (fieldTexts inner))) :: fieldTexts rest

def recordText (r : Record String) : String :=
  r.type.text ++ " " ++ inBraces (", ".intercalate (fieldTexts r.fields))

-- A block that is nothing but its value needs no braces in an expression.
def Block.inline (b : Block) (text : String) : String :=
  match b with
  | value _ => text
  | _       => inBraces text

-- There is a comma behind an arm without braces.
def Block.inArm (b : Block) (text : String) : String :=
  match b with
  | value _ => text ++ ","
  | _       => inBraces text

def Expr.level : Expr → Level
  | unary op _  => op.level
  | binary op .. => op.level
  | both ..     => .and
  | either ..   => .or
  | onOption .. | onText .. | leave _ => .statement
  | _           => .primary

mutual

def Expr.text : Expr → String
  | .name x         => x
  | .literal l      => l.text
  | .unary op e     => op.text (operand op.operandLevel e.level e.text)
  | .binary op a b  => op.text (operand op.leftLevel a.level a.text) (operand op.rightLevel b.level b.text)
  | .both a b       => operand .and a.level a.text ++ " && " ++ operand .compare b.level b.text
  | .either a b     => operand .or a.level a.text ++ " || " ++ operand .and b.level b.text
  | .orReturn e     => operand .primary e.level e.text ++ "?"
  | .call f e       => callText f e.text
  | .apply c e x b  => methodText (operand .primary e.level e.text) c.name (closureText x (b.inline b.text))
  | .onOption e x present absent =>
    "match " ++ e.text ++ " " ++ inBraces ("Some(" ++ x ++ ") => " ++ present.inArm present.text ++ " None => " ++
      absent.inArm absent.text)
  | .onText e arms  => "match " ++ e.text ++ " " ++ inBraces arms.text
  | .variable k     => callText "::std::env::var_os" k
  | .success r      => callText "Ok" (recordText r)
  | .failure type   => callText "Err" (type ++ " " ++ inBraces "missing, invalid")
  | .leave e        => "return " ++ e.text

def Arms.text : Arms → String
  | .otherwise e      => "_ => " ++ e.text ++ ","
  | .arm texts e rest => " | ".intercalate (texts.map textLiteral) ++ " => " ++ e.text ++ ", " ++ rest.text

def Block.text : Block → String
  | .value e      => e.text
  | .done         => ""
  | .leave e      => "return " ++ e.text ++ ";"
  | .stop         => "break;"
  | .letIn b e rest => "let " ++ b.text ++ " = " ++ e.text ++ "; " ++ rest.text
  | .letFunction f x body rest =>
    "let " ++ f ++ " = " ++ closureText (x ++ ": &str") body.text ++ "; " ++ rest.text
  | .assign x e rest => x ++ " = " ++ e.text ++ "; " ++ rest.text
  | .multiply x e rest => x ++ " *= " ++ e.text ++ "; " ++ rest.text
  | .push list type variant rest => list ++ ".push(" ++ type ++ "::" ++ variant ++ "); " ++ rest.text
  | .onlyIf c body rest => "if " ++ c.text ++ " " ++ inBraces body.text ++ " " ++ rest.text
  | .onlyIfAll names body rest => "if " ++ presentText names ++ " " ++ inBraces body.text ++ " " ++ rest.text
  | .whileTrue c body rest => "while " ++ c.text ++ " " ++ inBraces body.text ++ " " ++ rest.text
  | .forEach x e body rest => "for " ++ x ++ " in " ++ e.text ++ " " ++ inBraces body.text ++ " " ++ rest.text

end

def Function.text (f : Function) : String :=
  f.head ++ " " ++ inBraces f.body.text

end EnvConfig.Program
