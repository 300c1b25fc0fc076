namespace EnvConfig.Text

-- The characters `first`, `first + step`, …, `last`. Runs with step 2 are how scripts that alternate
-- upper and lower case appear in the tables.
structure CharRun where
  first : Nat
  last  : Nat
  step  : Nat

def CharRun.contains (r : CharRun) (n : Nat) : Bool :=
  r.first ≤ n && n ≤ r.last && (n - r.first) % r.step == 0

-- A set of characters, as disjoint runs in ascending order.
abbrev CharSet := List CharRun

namespace CharSet

-- The runs ascend, so the search ends at the first run that starts beyond the character.
def containsCode : CharSet → Nat → Bool
  | [],      _ => false
  | r :: rs, n => if n < r.first then false else r.contains n || containsCode rs n

def contains (s : CharSet) (c : Char) : Bool :=
  s.containsCode c.toNat

end CharSet
end EnvConfig.Text
