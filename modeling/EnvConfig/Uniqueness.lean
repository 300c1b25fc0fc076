import EnvConfig.Leaf
import EnvConfig.Problem

-- No two leaves may share a variable or an identifier.

namespace EnvConfig.Uniqueness

-- What the leaves so far have claimed, and which leaf it was, by its name.
structure Claims where
  keys        : List (String × String)
  identifiers : List (String × String)

def claimIdentifiers (leaf : String) (claimed : List (String × String)) :
    List String → Except Problem (List (String × String))
  | []            => .ok claimed
  | ident :: rest =>
    match claimed.lookup ident with
    | some first => .error (.duplicateIdentifier ident first leaf)
    | none       => claimIdentifiers leaf ((ident, leaf) :: claimed) rest

def claim (c : Claims) (leaf : Leaf) : Except Problem Claims :=
  match c.keys.lookup leaf.key with
  | some first => .error (.duplicateKey leaf.key first leaf.name)
  | none       => do
    let identifiers ← claimIdentifiers leaf.name c.identifiers leaf.identifiers
    return ⟨(leaf.key, leaf.name) :: c.keys, identifiers⟩

def check (leaves : List Leaf) : Except Problem Unit := do
  discard (leaves.foldlM claim ⟨[], []⟩)

end EnvConfig.Uniqueness
