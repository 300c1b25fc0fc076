import EnvConfig.Value.Duration
import EnvConfig.Value.Floating

-- The values of leaves, and how they are read from texts.

namespace EnvConfig

inductive Value where
  | string   (text : String)
  | bool     (b : Bool)
  | int      (n : Int)
  | double   (x : Floating)
  | single   (x : Floating)
  | duration (nanos : Nat)
  deriving DecidableEq, Repr

namespace Value

def bool? (s : List Char) : Option Bool :=
  let text := String.ofList s
  if ["1", "t", "T", "TRUE", "true", "True"].contains text then some true
  else if ["0", "f", "F", "FALSE", "false", "False"].contains text then some false
  else none

-- An integer that is read at one width and kept at another.
def integer? (wide : Primitive) (narrow : Option Primitive) (s : List Char) : Option Int := do
  let n ← (Decimal.integer? s).filter wide.holds
  match narrow with
  | none   => some n
  | some p => if p.holds n then some n else none

-- A number that is too large for its format is not taken for an infinite one.
def finiteOrNamed (s : List Char) (x : Floating) : Bool :=
  !x.isInfinite || Floating.namesInfinity s

end Value

-- The value that a text stands for, if it is valid.
def Parsing.read (p : Parsing) (s : List Char) : Option Value :=
  match p.parse with
  | .raw      => some (.string (String.ofList s))
  | .bool     => (Value.bool? s).map .bool
  | .duration => (Duration.ofText? s).map .duration
  | .word     => (Value.integer? p.parse.wide p.narrow s).map .int
  | .signed   => (Value.integer? p.parse.wide p.narrow s).map .int
  -- A number that cannot be negative has no sign.
  | .unsigned =>
    if s.head? = some '+' || s.head? = some '-' then none
    else (Value.integer? p.parse.wide p.narrow s).map .int
  | .float    => do
    let x ← Floating.ofText? .double s
    match p.narrow with
    | none   => if Value.finiteOrNamed s x then some (.double x) else none
    | some _ =>
      let x := FloatFormat.single.convert x
      if Value.finiteOrNamed s x then some (.single x) else none

end EnvConfig
