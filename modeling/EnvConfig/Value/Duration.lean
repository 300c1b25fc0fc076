import EnvConfig.Value.Integer

-- Durations: numbers with units, one after the other, such as `1h30m` or `2.5s`. They are counted in
-- nanoseconds. All arithmetic is that of unsigned words of 128 bits.

namespace EnvConfig.Duration

def wordLimit : Nat :=
  Nat.pow 2 128

def checked (n : Nat) : Option Nat :=
  if n < wordLimit then some n else none

-- The nanoseconds that a unit stands for.
def unit? (s : List Char) : Option Nat :=
  match String.ofList s with
  | "ns" => some 1
  | "us" | "µs" | "μs" => some 1_000
  | "ms" => some 1_000_000
  | "s"  => some 1_000_000_000
  | "m"  => some 60_000_000_000
  | "h"  => some 3_600_000_000_000
  | _    => none

-- One more digit of a fraction with a numerator and a denominator. After 18 digits the others are left out.
def addDigit (fraction : Nat × Nat) (c : Char) : Nat × Nat :=
  let (num, den) := fraction
  if den ≥ Nat.pow 10 18 then (num, den) else (10 * num + Decimal.digit c, 10 * den)

def fraction (digits : List Char) : Nat × Nat :=
  digits.foldl addDigit (0, 1)

-- A number with its unit, as written.
structure Component where
  whole    : List Char
  fraction : List Char
  unit     : List Char
  deriving DecidableEq, Repr

namespace Component

def isUnitEnd (c : Char) : Bool :=
  c = '.' || c.isDigit

-- The first component of a text, and what stands behind it. A unit ends where a number can start.
def split? (s : List Char) : Option (Component × List Char) :=
  let whole := s.takeWhile Char.isDigit
  let (fraction, tail) := match s.dropWhile Char.isDigit with
    | '.' :: s => (s.takeWhile Char.isDigit, s.dropWhile Char.isDigit)
    | s        => ([], s)
  if whole.isEmpty && fraction.isEmpty then none
  else some (⟨whole, fraction, tail.takeWhile (!isUnitEnd ·)⟩, tail.dropWhile (!isUnitEnd ·))

-- Adds a component to the sum of those before.
def addTo (c : Component) (total : Nat) : Option Nat := do
  let scale ← unit? c.unit
  let total ← if c.whole.isEmpty then some total else do
    let whole ← checked (Decimal.ofDigits c.whole)
    checked (total + (← checked (whole * scale)))
  let (num, den) := Duration.fraction c.fraction
  checked (total + num * scale / den)

end Component

-- The sum of the components of a text. Every component takes at least one character.
def sum : Nat → List Char → Nat → Option Nat
  | _,     [], total => some total
  | 0,     _,  _     => none
  | n + 1, s,  total => do
    let (c, rest) ← Component.split? s
    sum n rest (← c.addTo total)

def withoutSign : List Char → List Char
  | '+' :: s => s
  | '-' :: s => s
  | s        => s

def resultLimit : Nat :=
  Nat.pow 2 64

-- The nanoseconds that a text stands for. A zero needs no unit, and nothing less than zero is a duration.
def ofText? (s : List Char) : Option Nat :=
  let rest := withoutSign s
  if rest = ['0'] then some 0
  else if rest.isEmpty then none
  else do
    let total ← sum rest.length rest 0
    if s.head? = some '-' && total ≠ 0 then none
    else if total < resultLimit then some total
    else none

end EnvConfig.Duration
