import EnvConfig.Flatten

-- The identifiers that a module declares. All of them have to be valid before anything is generated.

namespace EnvConfig

open Source

-- The identifiers of a leaf: its constant, its local variable, and the variants that report problems.
structure LeafNames where
  constant : String
  binding  : String
  missing  : String
  invalid  : Option String
  deriving DecidableEq, Repr

structure ModuleNames where
  leaves    : List LeafNames
  sentinels : String
  loadError : String
  loader    : String
  deriving DecidableEq, Repr

-- A name that is an identifier. The field is the one it has been derived from.
def identifier (name field : String) : Except Problem String :=
  match readIdent name with
  | .ok i    => .ok i.text
  | .error _ => .error (.invalidIdentifier name field)

namespace LeafNames

def ofLeaf (l : Leaf) : Except Problem LeafNames := do
  let constant ← identifier (Naming.constantName l.key) l.name
  let binding ← identifier l.binding l.name
  let missing ← identifier l.missing l.name
  let invalid ← l.invalid.mapM (identifier · l.name)
  return ⟨constant, binding, missing, invalid⟩

end LeafNames

namespace ModuleNames

def ofFlattened (f : Flattened) : Except Problem ModuleNames := do
  let root := f.layout.type.name
  let leaves ← f.leaves.mapM LeafNames.ofLeaf
  let sentinels ← identifier (Naming.sentinelsName root) root
  let loadError ← identifier (Naming.loadErrorName root) root
  let loader ← identifier (Naming.loaderName root) root
  return ⟨leaves, sentinels, loadError, loader⟩

-- Whether the value of any leaf can be invalid.
def anyInvalid (n : ModuleNames) : Bool :=
  n.leaves.any (·.invalid.isSome)

end ModuleNames
end EnvConfig
