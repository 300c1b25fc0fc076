import EnvConfig.Source.Parser

-- Members of values: names of fields, and positions in tuples.

namespace EnvConfig.Source.Rule

open EnvConfig.Source.Parser

inductive Member where
  | named
  | index
  deriving DecidableEq

def digitValue (c : Char) : Nat :=
  if c.isDigit then c.toNat - '0'.toNat
  else if 'a' ≤ c && c ≤ 'f' then c.toNat - 'a'.toNat + 10
  else if 'A' ≤ c && c ≤ 'F' then c.toNat - 'A'.toNat + 10
  else 16

-- The value of the digits at the start of a text, and what stands behind them.
def digitsValue (base : Nat) (value : Nat) : List Char → Nat × List Char
  | []      => (value, [])
  | c :: cs =>
    if c = '_' then digitsValue base value cs
    else if digitValue c < base then digitsValue base (base * value + digitValue c) cs
    else (value, c :: cs)

-- The value of an integer, and its suffix.
def integer : List Char → Nat × List Char
  | '0' :: 'x' :: cs => digitsValue 16 0 cs
  | '0' :: 'o' :: cs => digitsValue 8 0 cs
  | '0' :: 'b' :: cs => digitsValue 2 0 cs
  | cs               => digitsValue 10 0 cs

-- Positions are plain numbers of 32 bits, and are shown in their shortest form.
def index (negative : Bool) (text : String) (pos : Nat) : Parser Unit := do
  let (n, suffix) := integer text.toList
  if !suffix.isEmpty then failAt pos "expected unsuffixed integer"
  if negative then failAt pos "invalid digit found in string"
  if n ≥ Nat.pow 2 32 then failAt pos "number too large to fit in target type"
  write [.literal (toString n) pos]

-- A number that may have a minus sign in front, the position where it starts, and how many tokens it takes.
structure Number where
  negative : Bool
  text     : String
  pos      : Nat
  width    : Nat

def number? : Parser (Option Number) := do
  match ← ahead with
  | .literal t pos :: _                     => return some ⟨false, t, pos, 1⟩
  | .punct '-' _ pos :: .literal t _ :: _   => return some ⟨true, t, pos, 2⟩
  | _                                       => return none

def member : Parser Member := do
  if ← take? .ident then return .named
  match ← number? with
  | some n =>
    if !Look.isInt n.text then fail "expected identifier or integer"
    hidden (advance n.width)
    index n.negative n.text n.pos
    return .index
  | none => fail "expected identifier or integer"

-- The positions between points, with the points written between two.
def indices (negative : Bool) (pos : Nat) : List String → Parser Unit
  | []            => return
  | part :: parts => do
    if !Look.isInt part then failAt pos "expected integer literal"
    index negative part pos
    if !parts.isEmpty then write (Token.ofSign ".")
    indices false pos parts

-- Behind a point, `0.1` is not a number but two positions. If it ends in a point, a further member follows.
def indices? : Parser (Option Bool) := do
  match ← number? with
  | some n =>
    if !Look.isFloat n.text then return none
    hidden (advance n.width)
    let parts := n.text.splitOn "."
    let further := parts.getLast? == some ""
    indices n.negative n.pos (if further then parts.dropLast else parts)
    if further then write (Token.ofSign ".")
    return some further
  | none => return none

end EnvConfig.Source.Rule
