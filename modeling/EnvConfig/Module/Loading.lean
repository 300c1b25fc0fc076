import EnvConfig.Module.Basic
import EnvConfig.Text.Utf8
import EnvConfig.Value.Basic

-- What a module's loader does in an environment.

namespace EnvConfig

-- The variables that are set, each with the octets of its value.
abbrev Environment := String → Option (List UInt8)

-- A problem with one variable.
structure Sentinel where
  id        : String
  key       : String
  isMissing : Bool
  deriving DecidableEq, Repr

-- All problems of one run: the variables that are not set, and those that are set to no valid value.
structure LoadError where
  missing : List Sentinel
  invalid : List Sentinel
  deriving DecidableEq, Repr

namespace LoadError

def errors (e : LoadError) : List Sentinel :=
  e.missing ++ e.invalid

def listed (ss : List Sentinel) : String :=
  ",".intercalate (ss.map (·.key))

-- A list without problems is not mentioned.
def message (e : LoadError) : String :=
  let missing := if e.missing.isEmpty then [] else ["envs " ++ listed e.missing ++ " are not set"]
  let invalid := if e.invalid.isEmpty then []
    else ["envs " ++ listed e.invalid ++ " have an invalid value"]
  "; ".intercalate (missing ++ invalid)

end LoadError

namespace Module

-- The variable that a constant names.
def key? (m : Module) (constant : String) : Option String :=
  (m.constants.find? (·.name = constant)).map (·.key)

-- What the enumeration's methods say of a variant.
def sentinel? (m : Module) (id : String) : Option Sentinel := do
  let arms ← m.arms?
  let key ← m.key? (← arms.keys.lookup id)
  return ⟨id, key, ← arms.flags.lookup id⟩

-- The local variables so far, and the problems with those that have no value.
structure Progress where
  values  : List (String × Option Value)
  missing : List Sentinel
  invalid : List Sentinel
  deriving Repr

namespace Progress

def start : Progress where
  values  := []
  missing := []
  invalid := []

def bind (p : Progress) (name : String) (value : Option Value) : Progress :=
  { p with values := p.values ++ [(name, value)] }

end Progress

-- Reads one variable. There is no result if the module does not declare a name that is used for it.
def readVariable (m : Module) (env : Environment) (p : Progress) (r : VariableRead) :
    Option Progress := do
  match env (← m.key? r.constant) with
  | none =>
    let s ← m.sentinel? r.missing
    return { p.bind r.binding none with missing := p.missing ++ [s] }
  | some octets =>
    let text := Text.Utf8.decodeLossy octets
    match r.interpretation with
    | none   => return p.bind r.binding (some (.string (String.ofList text)))
    | some i =>
      match i.parsing.read text with
      | some v => return p.bind r.binding (some v)
      | none   =>
        let s ← m.sentinel? i.invalid
        return { p.bind r.binding none with invalid := p.invalid ++ [s] }

-- The record, if every variable has a value, and else all problems.
def finish (l : Loader) (p : Progress) : Option (Except LoadError (Record Value)) :=
  if p.values.all (·.2.isSome) then
    (l.literal.traverse? fun name => (p.values.lookup name).bind id).map .ok
  else some (.error ⟨p.missing, p.invalid⟩)

def load (m : Module) (env : Environment) : Option (Except LoadError (Record Value)) := do
  let l ← m.loader?
  finish l (← l.reads.foldlM (m.readVariable env) .start)

end Module
end EnvConfig
