import EnvConfig.Source.Declaration
import EnvConfig.Source.Parser

-- The grammar of source files is mutually recursive. `Grammar` holds a reader for each of its
-- nonterminals, and each rule takes the readers of the nonterminals in it from there. `Source.File` ties
-- the knot.

namespace EnvConfig.Source

-- What the rules around an expression need to know of it. A block ends a statement by itself, and so does
-- an invocation with braces. An expression that the grammar has no form for is shown as it is written.
inductive ExprKind where
  | block
  | range
  | comparison
  | invocation (braced : Bool)
  | asWritten
  | other
  deriving DecidableEq, Repr

-- The operand that an expression starts with, and the expression as a whole.
structure Leading where
  first : ExprKind
  whole : ExprKind

namespace Leading

def only (kind : ExprKind) : Leading where
  first := kind
  whole := kind

end Leading

-- How strongly operators bind, from the weakest on.
inductive Precedence where
  | jump
  | assign
  | range
  | or
  | and
  | bind
  | compare
  | bitOr
  | bitXor
  | bitAnd
  | shift
  | sum
  | product
  | cast
  deriving DecidableEq, Repr

def Precedence.rank (p : Precedence) : Nat :=
  p.ctorIdx

-- What the rules around a pattern need to know of it: a range without one of its ends (at the position of
-- its dots) is not allowed in a slice, and a pattern that the grammar has no form for is shown as it is
-- written.
inductive PatternKind where
  | range (open? : Option Nat)
  | asWritten
  | other
  deriving DecidableEq, Repr

inductive BoundKind where
  | trait
  | lifetime (pos : Nat)
  | capture (pos : Nat)
  deriving DecidableEq, Repr

-- A bound may list the generic parameters that it captures, or be a constant one, in some places only.
structure BoundRules where
  captures  : Bool
  constants : Bool

-- `unary` reads an operand and `binary` the operators behind one. `leading` reads an expression at the start
-- of a statement or of an arm, and `item` an item behind its attributes, which begin at a cursor.
structure Grammar where
  type       : (plus : Bool) → Parser TypeExpr
  bound      : BoundRules → Parser BoundKind
  pattern    : Parser PatternKind
  expr       : (struct : Bool) → Parser ExprKind
  unary      : (struct : Bool) → Parser ExprKind
  binary     : (struct : Bool) → ExprKind → Precedence → Parser ExprKind
  leading    : Parser Leading
  statements : Parser Unit
  useTree    : (crateRoot : Bool) → Parser Bool
  item       : Cursor → Parser Item

namespace Grammar

-- What is left when the depth that the number of tokens allows is used up. It is not reached.
def exhausted : Grammar where
  type _       := Parser.fail "nesting too deep"
  bound _      := Parser.fail "nesting too deep"
  pattern      := Parser.fail "nesting too deep"
  expr _       := Parser.fail "nesting too deep"
  unary _      := Parser.fail "nesting too deep"
  binary _ _ _ := Parser.fail "nesting too deep"
  leading      := Parser.fail "nesting too deep"
  statements   := Parser.fail "nesting too deep"
  useTree _    := Parser.fail "nesting too deep"
  item _       := Parser.fail "nesting too deep"

end Grammar

namespace Rule

open EnvConfig.Source.Parser

-- The tokens in the delimiters of an invocation are not looked at.
def delimited : Parser Delimiter := do
  match ← ahead with
  | .group d .. :: _ =>
    if d = .invisible then fail "expected delimiter"
    else
      advance 1
      return d
  | _ => fail "expected delimiter"

-- Reads items, each but the last with a separator behind it, up to a sign that may also follow a
-- separator.
def listUpTo (stop separator : Look) (p : Parser Unit) : Parser Unit :=
  loop (fun _ => do
    if ← sees stop then return ((), false)
    p
    if ← sees stop then return ((), false)
    expect separator
    return ((), true)) ()

-- Reads items with a separator between two, up to a separator that does not follow.
def listWhile (separator : Look) (stops : Parser Bool) (p : Parser Unit) : Parser Unit :=
  loop (fun _ => do
    if ← stops then return ((), false)
    p
    return ((), ← take? separator)) ()

end Rule
end EnvConfig.Source
