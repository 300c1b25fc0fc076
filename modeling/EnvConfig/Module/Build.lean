import EnvConfig.Module.Basic
import EnvConfig.Module.Names

-- From a record's leaves to its module.

namespace EnvConfig

open Source

-- How a module refers to its surroundings: the path of the module that its record types are imported from,
-- if they are, and the gate of all its items, if there is one.
structure ModuleOptions where
  typesPath : Option (List Token)
  gate      : Option (List Token)
  deriving Repr

namespace Module

def inTicks (name : String) : String :=
  "`" ++ name ++ "`"

def link (name : String) : String :=
  "[`" ++ name ++ "`]"

def keyConstant (l : Leaf) (n : LeafNames) : KeyConstant where
  name := n.constant
  doc  := " Variable read for " ++ inTicks l.name ++ " (" ++ inTicks l.primitive.name ++ ")."
  key  := l.key

def missingVariant (l : Leaf) (n : LeafNames) : Variant where
  name := n.missing
  doc  := " " ++ inTicks l.key ++ " is not set."

def invalidVariant (l : Leaf) (name : String) : Variant where
  name := name
  doc  := " " ++ inTicks l.key ++ " is set but is not a valid " ++ inTicks l.primitive.name ++ "."

-- A leaf's variants, with what the enumeration's methods answer for each.
def leafVariants (l : Leaf) (n : LeafNames) : List (Variant × String × Bool) :=
  (missingVariant l n, n.constant, true) ::
    n.invalid.toList.map fun name => (invalidVariant l name, n.constant, false)

def leafRead (l : Leaf) (n : LeafNames) : VariableRead where
  binding        := n.binding
  type           := l.primitive
  constant       := n.constant
  missing        := n.missing
  interpretation := n.invalid.map (⟨l.parsing, ·⟩)

def bindingOf (n : ModuleNames) (index : Nat) : String :=
  (n.leaves[index]?.map (·.binding)).getD ""

-- Text that is not valid in its encoding needs a remark where any leaf takes it as it is.
def lossyRemark (leaves : List Leaf) : List String :=
  if leaves.any (·.parsing.parse = .raw) then [
    "",
    " `String` fields are read with " ++
      "[`OsStr::to_string_lossy`](std::ffi::OsStr::to_string_lossy),",
    " so bytes that are not valid UTF-8 become `U+FFFD`."]
  else []

def loaderDocs (project : String) (f : Flattened) (n : ModuleNames) : List String :=
  [" Loads " ++ link f.layout.type.text ++ " from the process environment.",
    "",
    " Variables are read on every call and all of them are checked before",
    " returning, so a single error reports every problem at once.",
    " Every variable starts with " ++ inTicks (project ++ "_") ++ "."] ++
  lossyRemark f.leaves ++
  ["",
    " # Errors",
    "",
    " Returns " ++ link n.loadError ++ " listing every missing and every malformed variable."]

def loaderFor (project : String) (f : Flattened) (n : ModuleNames) : Loader where
  name           := n.loader
  docs           := loaderDocs project f n
  invalidMutable := n.anyInvalid
  reads          := List.zipWith leafRead f.leaves n.leaves
  literal        := f.layout.map (bindingOf n)

-- The helpers that some leaf needs.
def helpersFor (leaves : List Leaf) : List Helper :=
  let needs (parse : Parse) := leaves.any (·.parsing.parse = parse)
  (if needs .bool then [.bool] else []) ++ (if needs .duration then [.duration] else [])

-- The items of each kind. Every one of them gets the gate.

def importItem (f : Flattened) (o : ModuleOptions) : Except Problem (List GatedItem) :=
  match o.typesPath with
  | none      => .ok []
  | some path => do
    let names ← f.layout.typeNames.mapM fun name => identifier name name
    return [⟨o.gate, .imports path names⟩]

def constantItem (gate : Option (List Token)) (l : Leaf) (n : LeafNames) : GatedItem :=
  ⟨gate, .constant (keyConstant l n)⟩

def sentinelItems (gate : Option (List Token)) (f : Flattened) (n : ModuleNames) : List GatedItem :=
  let variants := (List.zipWith leafVariants f.leaves n.leaves).flatten
  let arms : SentinelArms := {
    keys  := variants.map fun (v, key, _) => (v.name, key)
    flags := variants.map fun (v, _, isMissing) => (v.name, isMissing) }
  [ ⟨gate, .sentinels (" A single variable problem reported by " ++ link n.loader ++ ".")
      (variants.map (·.1))⟩,
    ⟨gate, .sentinelMethods arms⟩,
    ⟨gate, .sentinelDisplay⟩,
    ⟨gate, .sentinelError⟩]

def loadErrorItems (gate : Option (List Token)) (n : ModuleNames) : List GatedItem := [
  ⟨gate, .loadError (" Every variable problem found by one call to " ++ link n.loader ++ ".")⟩,
  ⟨gate, .loadErrorMethods⟩,
  ⟨gate, .loadErrorDisplay⟩,
  ⟨gate, .loadErrorError⟩]

def loaderItem (gate : Option (List Token)) (project : String) (f : Flattened) (n : ModuleNames) :
    GatedItem :=
  ⟨gate, .loader (loaderFor project f n)⟩

def helperItem (gate : Option (List Token)) (h : Helper) : GatedItem :=
  ⟨gate, .helper h⟩

-- The items behind the imports.
def itemsFor (gate : Option (List Token)) (project : String) (f : Flattened) (n : ModuleNames) :
    List GatedItem :=
  List.zipWith (constantItem gate) f.leaves n.leaves ++ sentinelItems gate f n ++ loadErrorItems gate n ++
    [loaderItem gate project f n] ++ (helpersFor f.leaves).map (helperItem gate)

-- The module for a record, which need not be well formed yet.
def build (project : String) (f : Flattened) (o : ModuleOptions) : Except Problem Module := do
  let n ← ModuleNames.ofFlattened f
  let imports ← importItem f o
  return {
    root  := f.layout.type.name
    types := ⟨n.sentinels, n.loadError⟩
    items := imports ++ itemsFor o.gate project f n }

end Module
end EnvConfig
