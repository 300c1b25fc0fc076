import EnvConfig.Value.Integer

-- Binary floating point numbers, and their decimal notation.

namespace EnvConfig

-- A finite number is its significand times a power of two.
inductive Floating where
  | nan
  | infinite (negative : Bool)
  | finite (negative : Bool) (significand : Nat) (exponent : Int)
  deriving DecidableEq, Repr

-- How many bits a significand has, and the least and the greatest exponent of a finite number.
structure FloatFormat where
  precision   : Nat
  minExponent : Int
  maxExponent : Int
  deriving DecidableEq, Repr

namespace FloatFormat

def double : FloatFormat where
  precision   := 53
  minExponent := -1074
  maxExponent := 971

def single : FloatFormat where
  precision   := 24
  minExponent := -149
  maxExponent := 104

-- The quotient to the nearest integer, and to the even one of two.
def nearest (num den : Nat) : Nat :=
  let q := num / den
  let r := num % den
  if 2 * r > den || 2 * r = den && q % 2 = 1 then q + 1 else q

-- A quotient as a fraction, divided by a power of two.
def scaled (num den : Nat) (exponent : Int) : Nat × Nat :=
  if 0 ≤ exponent then (num, den * Nat.pow 2 exponent.toNat) else (num * Nat.pow 2 (-exponent).toNat, den)

-- The exponent of the greatest power of two that is not above a quotient.
def magnitude (num den : Nat) : Int :=
  let guess : Int := num.log2 - den.log2
  let (n, d) := scaled num den guess
  if d ≤ n then guess else guess - 1

-- The number of the format that is nearest to a positive quotient.
def round (f : FloatFormat) (negative : Bool) (num den : Nat) : Floating :=
  let exponent := max f.minExponent (magnitude num den - (f.precision - 1))
  let (n, d) := scaled num den exponent
  let significand := nearest n d
  let (significand, exponent) :=
    if significand = Nat.pow 2 f.precision then (Nat.pow 2 (f.precision - 1), exponent + 1)
    else (significand, exponent)
  if exponent > f.maxExponent then .infinite negative else .finite negative significand exponent

def zero (f : FloatFormat) (negative : Bool) : Floating :=
  .finite negative 0 f.minExponent

-- The nearest number of this format to a number of another one.
def convert (f : FloatFormat) : Floating → Floating
  | .nan => .nan
  | .infinite negative => .infinite negative
  | .finite negative 0 _ => f.zero negative
  | .finite negative m e =>
    let (num, den) := if 0 ≤ e then (m * Nat.pow 2 e.toNat, 1) else (m, Nat.pow 2 (-e).toNat)
    f.round negative num den

-- The bits of the infinite number.
def infinityBits (f : FloatFormat) : Nat :=
  ((f.maxExponent - f.minExponent).toNat + 2) * Nat.pow 2 (f.precision - 1)

-- The bits of a number other than its sign. What is not a number stands behind the infinite one.
def magnitudeBits (f : FloatFormat) : Floating → Nat
  | .nan          => f.infinityBits + Nat.pow 2 (f.precision - 2)
  | .infinite _   => f.infinityBits
  | .finite _ m e => (e - f.minExponent).toNat * Nat.pow 2 (f.precision - 1) + m

-- The sign is the bit in front of all others.
def signBit (f : FloatFormat) : Nat :=
  f.infinityBits + Nat.pow 2 (f.precision - 1)

end FloatFormat

namespace Floating

def isNegative : Floating → Bool
  | nan          => false
  | infinite n   => n
  | finite n _ _ => n

def isInfinite : Floating → Bool
  | infinite _ => true
  | _          => false

def bits (f : FloatFormat) (x : Floating) : Nat :=
  (if x.isNegative then f.signBit else 0) + f.magnitudeBits x

-- Digits with a power of ten.
structure Notation where
  digits   : List Char
  exponent : Int

-- Digits beyond the largest useful exponent are not taken into account.
def exponentLimit : Nat :=
  0x10000

def exponentValue (digits : List Char) : Nat :=
  digits.foldl (fun n c => if n < exponentLimit then 10 * n + Decimal.digit c else n) 0

-- What stands behind the letter of an exponent: at most one sign, and digits.
def exponent? (s : List Char) : Option Int :=
  let (negative, digits) := match s with
    | '-' :: s => (true, s)
    | '+' :: s => (false, s)
    | s        => (false, s)
  if digits.isEmpty || !digits.all Char.isDigit then none
  else some (if negative then -(exponentValue digits : Int) else exponentValue digits)

-- A number without a sign: digits in front of a point or behind it, and perhaps an exponent.
def notation? (s : List Char) : Option Notation :=
  let whole := s.takeWhile Char.isDigit
  let (fraction, rest) := match s.dropWhile Char.isDigit with
    | '.' :: s => (s.takeWhile Char.isDigit, s.dropWhile Char.isDigit)
    | s        => ([], s)
  let digits := whole ++ fraction
  if digits.isEmpty then none
  else
    match rest with
    | []     => some ⟨digits, -fraction.length⟩
    | c :: s =>
      if c = 'e' || c = 'E' then (exponent? s).map fun e => ⟨digits, e - fraction.length⟩ else none

-- No number of more digits than this in front of its point is finite, and none of as many zeros behind
-- it is more than zero.
def magnitudeLimit : Int :=
  400

def ofNotation (f : FloatFormat) (negative : Bool) (n : Notation) : Floating :=
  let digits := n.digits.dropWhile (· = '0')
  let magnitude := digits.length + n.exponent
  if digits.isEmpty || magnitude < -magnitudeLimit then f.zero negative
  else if magnitude > magnitudeLimit then .infinite negative
  else
    let value := Decimal.ofDigits digits
    if 0 ≤ n.exponent then f.round negative (value * Nat.pow 10 n.exponent.toNat) 1
    else f.round negative value (Nat.pow 10 (-n.exponent).toNat)

-- Letters without regard to case, where only those without accents count as such.
def asciiLower (s : List Char) : List Char :=
  s.map Char.toLower

def isInfinityName (s : List Char) : Bool :=
  asciiLower s = "inf".toList || asciiLower s = "infinity".toList

def named? (negative : Bool) (s : List Char) : Option Floating :=
  if isInfinityName s then some (.infinite negative)
  else if asciiLower s = "nan".toList then some .nan
  else none

def unsigned? (f : FloatFormat) (negative : Bool) (s : List Char) : Option Floating :=
  match notation? s with
  | some n => some (ofNotation f negative n)
  | none   => named? negative s

-- The number of the format that is nearest to what a text says.
def ofText? (f : FloatFormat) : List Char → Option Floating
  | '-' :: s => unsigned? f true s
  | '+' :: s => unsigned? f false s
  | s        => unsigned? f false s

-- Whether a text names the infinite number, signs aside.
def namesInfinity (s : List Char) : Bool :=
  isInfinityName (s.dropWhile fun c => c = '+' || c = '-')

end Floating
end EnvConfig
