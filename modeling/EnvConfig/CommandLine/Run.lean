import EnvConfig.CommandLine.Help

-- One run of the program in a file tree.

namespace EnvConfig

-- How a run ends.
inductive Outcome where
  | written
  | shown (text : String)
  | misused (m : Misuse)
  | failed (p : Problem)
  deriving DecidableEq, Repr

namespace Outcome

def ofStop (env : Environment) : Stop → Outcome
  | .misuse m => .misused m
  | .help     => .shown (Help.text env)
  | .version  => .shown Help.version

def exitCode : Outcome → Nat
  | written | shown _ => 0
  | failed _          => 1
  | misused _         => 2

def output : Outcome → String
  | shown text => text
  | _          => ""

-- What a user is told about a run that did not do what it should.
def report? : Outcome → Option String
  | written | shown _ => none
  | misused m         => some ("error: " ++ m.message)
  | failed p          => some ("Error: " ++ p.code)

end Outcome

namespace Arguments

-- Writes what is generated, the module before the scaffold.
def run (a : Arguments) (t : FileTree) (cwd : Location) : FileTree × Outcome :=
  match (a.generator (cwd.getLast?.getD "")).generateFile t cwd a.input with
  | .error p => (t, .failed p)
  | .ok g    =>
    match t.saveAll cwd (a.outputs g) with
    | (t', none)   => (t', .written)
    | (t', some p) => (t', .failed p)

end Arguments

-- What a command line does in a directory of a file tree.
def run (t : FileTree) (cwd : Location) (env : Environment) (args : List String) : FileTree × Outcome :=
  match Arguments.read env args with
  | .ok a    => a.run t cwd
  | .error s => (t, .ofStop env s)

end EnvConfig
