import EnvConfig.Primitive

-- Integers in decimal notation.

namespace EnvConfig

namespace Decimal

def digit (c : Char) : Nat :=
  c.toNat - '0'.toNat

-- The number that digits stand for.
def ofDigits (s : List Char) : Nat :=
  s.foldl (fun n c => 10 * n + digit c) 0

-- A number without a sign: one digit or more.
def natural? (s : List Char) : Option Nat :=
  if s.isEmpty || !s.all Char.isDigit then none else some (ofDigits s)

-- A number with at most one sign in front.
def integer? : List Char → Option Int
  | '-' :: s => (natural? s).map fun n => -(n : Int)
  | '+' :: s => (natural? s).map Int.ofNat
  | s        => (natural? s).map Int.ofNat

end Decimal

-- The integers from `low` to `high`.
structure IntRange where
  low  : Int
  high : Int
  deriving DecidableEq, Repr

namespace IntRange

def signed (bits : Nat) : IntRange where
  low  := -(Nat.pow 2 (bits - 1) : Nat)
  high := (Nat.pow 2 (bits - 1) : Nat) - 1

def unsigned (bits : Nat) : IntRange where
  low  := 0
  high := (Nat.pow 2 bits : Nat) - 1

def contains (r : IntRange) (n : Int) : Bool :=
  r.low ≤ n && n ≤ r.high

def check (r : IntRange) (n : Int) : Option Int :=
  if r.contains n then some n else none

-- One digit after the other, with a sign of 1 or -1. Nothing on the way may be out of range.
def accumulate (r : IntRange) (sign : Int) : Int → List Char → Option Int
  | n, []      => some n
  | n, c :: ds =>
    if c.isDigit then do
      let shifted ← r.check (10 * n)
      r.accumulate sign (← r.check (shifted + sign * Decimal.digit c)) ds
    else none

def readUnsigned (r : IntRange) (sign : Int) (ds : List Char) : Option Int :=
  if ds.isEmpty then none else r.accumulate sign 0 ds

-- An integer as it is read at its own width.
def read (r : IntRange) : List Char → Option Int
  | '-' :: ds => if r.low < 0 then r.readUnsigned (-1) ds else none
  | '+' :: ds => r.readUnsigned 1 ds
  | ds        => r.readUnsigned 1 ds

end IntRange

-- The integers that a primitive holds. A machine word has 64 bits.
def Primitive.range? : Primitive → Option IntRange
  | i8    => some (.signed 8)
  | i16   => some (.signed 16)
  | i32   => some (.signed 32)
  | i64   => some (.signed 64)
  | isize => some (.signed 64)
  | u8    => some (.unsigned 8)
  | u16   => some (.unsigned 16)
  | u32   => some (.unsigned 32)
  | u64   => some (.unsigned 64)
  | usize => some (.unsigned 64)
  | _     => none

-- An integer that a primitive holds.
def Primitive.holds (p : Primitive) (n : Int) : Bool :=
  p.range?.any (·.contains n)

def Primitive.isSigned : Primitive → Bool
  | isize | i8 | i16 | i32 | i64 => true
  | _ => false

-- The range of the largest integers of a kind.
def Primitive.widestRange (p : Primitive) : IntRange :=
  if p.isSigned then .signed 64 else .unsigned 64

end EnvConfig
