import EnvConfig.FileTree.Basic
import EnvConfig.Module.Rendering
import EnvConfig.Uniqueness

-- One run from a source text or file to a loader module and a scaffold.

namespace EnvConfig

open Source

-- What is to be generated: the name of the root record, the project's prefix, the path of the module that
-- the record types are imported from, and the predicate of a gate.
structure Generator where
  root      : String
  project   : String
  typesPath : Option String
  gate      : Option String
  deriving DecidableEq, Repr

-- What a run generates.
structure Generated where
  root   : String
  module : Module
  leaves : List Leaf
  deriving Repr

namespace Generated

def scaffold (g : Generated) : String :=
  EnvConfig.scaffold g.leaves

def text (g : Generated) : String :=
  g.module.text

end Generated

namespace Generator

def defaultTypesPath : String :=
  "super"

def ofRoot (root : String) : Generator where
  root      := root
  project   := "APP"
  typesPath := some defaultTypesPath
  gate      := none

def withProject (g : Generator) (project : String) : Generator :=
  { g with project := project }

-- The types need no import if the loader stands in their own module.
def withTypesPath (g : Generator) (path : String) : Generator :=
  { g with typesPath := if Text.trim path.toList = "self".toList then none else some path }

def withGate (g : Generator) (predicate : String) : Generator :=
  { g with gate := some predicate }

-- Reads an option, if it is given.
def option {α} (name : String) (read : String → Except SyntaxProblem α) :
    Option String → Except Problem (Option α)
  | none      => .ok none
  | some text =>
    match read text with
    | .ok a    => .ok (some a)
    | .error e => .error (.invalidOption name text e.message)

def options (g : Generator) : Except Problem ModuleOptions := do
  let path ← option "types path" readPath g.typesPath
  let gate ← option "cfg predicate" readPredicate g.gate
  return ⟨path.map (·.2), gate⟩

-- The records that a source text declares.
def catalog (name source : String) : Except Problem Catalog :=
  match readFile source with
  | .ok items => .ok (.ofItems items)
  | .error e  => .error (.atPlace name source e.place e.message)

def project? (g : Generator) : Except Problem String :=
  match Naming.project? g.project with
  | some project => .ok project
  | none         => .error .emptyPrefix

-- The name of the source is only shown in messages.
def generate (g : Generator) (name source : String) : Except Problem Generated := do
  let project ← g.project?
  let options ← g.options
  let catalog ← catalog name source
  let flattened ← catalog.flatten g.root project
  Uniqueness.check flattened.leaves
  let module ← Module.render project flattened options
  return ⟨g.root, module, flattened.leaves⟩

def generateFile (g : Generator) (t : FileTree) (cwd : Location) (p : FilePath) :
    Except Problem Generated :=
  match t.readText cwd p with
  | .ok source => g.generate p.text source
  | .error e   => .error (.read p.text e)

end Generator

-- A file that is to be written.
structure OutputFile where
  path : FilePath
  text : String
  deriving DecidableEq, Repr

namespace FileTree

-- Writes files one after the other, up to the first that cannot be written.
def saveAll (t : FileTree) (cwd : Location) : List OutputFile → Attempt Problem
  | []      => (t, none)
  | f :: fs =>
    match t.save cwd f.path f.text with
    | (t', none)   => t'.saveAll cwd fs
    | (t', some e) => (t', some (.write f.path.text e))

end FileTree
end EnvConfig
