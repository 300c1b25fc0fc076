import EnvConfig.Primitive
import EnvConfig.Record

-- The module that is generated for a record, as data. Names in one item stand for what other items declare
-- by them.

namespace EnvConfig

open Source

-- A constant that holds the name of a variable.
structure KeyConstant where
  name : String
  doc  : String
  key  : String
  deriving DecidableEq, Repr

-- A variant of the enumeration by which problems with variables are reported.
structure Variant where
  name : String
  doc  : String
  deriving DecidableEq, Repr

-- What the enumeration's methods answer for a variant: the constant of its variable, and whether it says
-- that the variable is not set.
structure SentinelArms where
  keys  : List (String × String)
  flags : List (String × Bool)
  deriving DecidableEq, Repr

-- How a loader makes a value of the text of a variable, and the variant that reports a text that is
-- not valid.
structure Interpretation where
  parsing : Parsing
  invalid : String
  deriving DecidableEq, Repr

-- One variable that a loader reads: the constant that names it, the local variable that receives the
-- value, and the variant that reports a variable that is not set. Without an interpretation, the value is
-- the text itself.
structure VariableRead where
  binding        : String
  type           : Primitive
  constant       : String
  missing        : String
  interpretation : Option Interpretation
  deriving DecidableEq, Repr

-- The function that loads a record. The literal is the record with a local variable for each leaf.
structure Loader where
  name           : String
  docs           : List String
  invalidMutable : Bool
  reads          : List VariableRead
  literal        : Record String
  deriving Repr

inductive Helper where
  | bool
  | duration
  deriving DecidableEq, Repr

def Helper.name : Helper → String
  | bool     => "parse_bool"
  | duration => "parse_duration"

-- The helper that makes a value of a text.
def Parse.helper? : Parse → Option Helper
  | bool     => some .bool
  | duration => some .duration
  | _        => none

-- The names of the types by which problems are reported.
structure ReportTypes where
  sentinels : String
  loadError : String
  deriving DecidableEq, Repr

inductive ModuleItem where
  | imports (path : List Token) (names : List String)
  | constant (constant : KeyConstant)
  | sentinels (doc : String) (variants : List Variant)
  | sentinelMethods (arms : SentinelArms)
  | sentinelDisplay
  | sentinelError
  | loadError (doc : String)
  | loadErrorMethods
  | loadErrorDisplay
  | loadErrorError
  | loader (loader : Loader)
  | helper (helper : Helper)
  deriving Repr

-- An item that is compiled only where its gate, a predicate, holds.
structure GatedItem where
  gate : Option (List Token)
  item : ModuleItem
  deriving Repr

structure Module where
  root  : String
  types : ReportTypes
  items : List GatedItem
  deriving Repr

namespace Module

def constants (m : Module) : List KeyConstant :=
  m.items.filterMap fun i => if let .constant c := i.item then some c else none

def variants (m : Module) : List Variant :=
  m.items.flatMap fun i => if let .sentinels _ vs := i.item then vs else []

def arms? (m : Module) : Option SentinelArms :=
  m.items.findSome? fun i => if let .sentinelMethods a := i.item then some a else none

def loader? (m : Module) : Option Loader :=
  m.items.findSome? fun i => if let .loader l := i.item then some l else none

def helpers (m : Module) : List Helper :=
  m.items.filterMap fun i => if let .helper h := i.item then some h else none

def imports (m : Module) : List String :=
  m.items.flatMap fun i => if let .imports _ names := i.item then names else []

end Module
end EnvConfig
