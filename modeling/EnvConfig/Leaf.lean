import EnvConfig.Naming
import EnvConfig.Primitive

-- The leaves of a record: fields that are read from a variable of their own.

namespace EnvConfig

open Source

-- What a loader has to know of a leaf: where it is, its type as declared and as resolved, the variable
-- that it is read from, and the identifiers by which a variable that is not set or not valid is reported.
-- There is no identifier for the latter if every value is valid.
structure Leaf where
  path      : FieldPath
  type      : TypeExpr
  primitive : Primitive
  key       : String
  missing   : String
  invalid   : Option String
  deriving Repr

namespace Leaf

def name (l : Leaf) : String :=
  l.path.dotted

def binding (l : Leaf) : String :=
  l.path.binding

def parsing (l : Leaf) : Parsing :=
  l.primitive.parsing

-- The leaf at a path, with all the names that follow from the path.
def ofPath (project : String) (path : FieldPath) (type : TypeExpr) (p : Primitive) : Leaf where
  path      := path
  type      := type
  primitive := p
  key       := Naming.variableName project path
  missing   := Naming.missingName project path
  invalid   := if p.parsing.canFail then some (Naming.invalidName project path) else none

-- The identifiers that a module declares for the leaf, besides its constant.
def identifiers (l : Leaf) : List String :=
  l.missing :: l.invalid.toList ++ [l.binding]

end Leaf

-- A file for users to fill in: a line for each variable, without a value.
def scaffold (leaves : List Leaf) : String :=
  String.join (leaves.map (·.key ++ "=\n"))

end EnvConfig
