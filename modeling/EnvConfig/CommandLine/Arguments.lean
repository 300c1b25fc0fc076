import EnvConfig.FileTree.Path
import EnvConfig.Generator
import EnvConfig.Module.Loading
import EnvConfig.Text.Terminal

-- What a command line asks for.

namespace EnvConfig

inductive Parameter where
  | input
  | root
  | project
  | output
  | scaffold
  | typesPath
  | gate
  | debug
  | help
  | version
  deriving DecidableEq, Repr

namespace Parameter

def all : List Parameter :=
  [input, root, project, output, scaffold, typesPath, gate, debug, help, version]

def name : Parameter → String
  | input     => "path"
  | root      => "struct"
  | project   => "project"
  | output    => "output"
  | scaffold  => "env"
  | typesPath => "types-path"
  | gate      => "cfg"
  | debug     => "debug"
  | help      => "help"
  | version   => "version"

-- What a parameter's value is called. A parameter without one takes no value.
def value? : Parameter → Option String
  | input | output | scaffold => some "FILE"
  | root                      => some "NAME"
  | project                   => some "PREFIX"
  | typesPath                 => some "PATH"
  | gate                      => some "PREDICATE"
  | debug | help | version    => none

-- A parameter whose value must not be empty.
def isFile (p : Parameter) : Bool :=
  p.value? = some "FILE"

-- The letter that stands for a parameter.
def letter? : Parameter → Option Char
  | help    => some 'h'
  | version => some 'V'
  | _       => none

def ofName? (name : List Char) : Option Parameter :=
  all.find? fun p => p.name.toList = name

def ofLetter? (c : Char) : Option Parameter :=
  all.find? fun p => p.letter? = some c

def shown (p : Parameter) : String :=
  "--" ++ p.name ++ p.value?.elim "" fun v => " <" ++ v ++ ">"

-- The environment variable that is used if there is no input on the command line.
def inputVariable : String :=
  "ENVGEN_FILE"

end Parameter

-- What is wrong with a command line.
inductive Misuse where
  | unexpected (argument : String)
  | unexpectedValue (value : String) (p : Parameter)
  | missingValue (p : Parameter)
  | repeated (p : Parameter)
  | noInput
  deriving DecidableEq, Repr

namespace Misuse

open Text.Terminal

-- Arguments stand out on a terminal.
def report : Misuse → String
  | unexpected a        => "unexpected argument '" ++ emphasized a ++ "' found"
  | unexpectedValue v p =>
    "unexpected value '" ++ emphasized v ++ "' for '" ++ p.shown ++ "' found; no more were expected"
  | missingValue p => "a value is required for '" ++ p.shown ++ "' but none was supplied"
  | repeated p     => "the argument '" ++ p.shown ++ "' cannot be used multiple times"
  | noInput        =>
    "the following required arguments were not provided:\n  " ++ Parameter.input.shown

-- The report as it is written to a file.
def message (m : Misuse) : String :=
  plain m.report

end Misuse

-- Why there is nothing to generate.
inductive Stop where
  | misuse (m : Misuse)
  | help
  | version
  deriving DecidableEq, Repr

-- One argument by its form. The value of a name is what follows an equals sign.
inductive Argument where
  | separator
  | named (name : List Char) (value? : Option String)
  | lettered (letter : Char)
  | plain
  deriving DecidableEq, Repr

namespace Argument

def splitValue (s : List Char) : List Char × Option String :=
  (s.takeWhile (· ≠ '='), match s.dropWhile (· ≠ '=') with
    | []     => none
    | _ :: v => some (String.ofList v))

def ofText (text : String) : Argument :=
  match text.toList with
  | ['-', '-']      => separator
  | '-' :: '-' :: s => named (splitValue s).1 (splitValue s).2
  | '-' :: c :: _   => lettered c
  | _               => plain

end Argument

-- The parameters that have been used, each with its value, and the last one while it may still turn out to
-- be wrong: whether its value is there and is right is looked at when the next parameter is used.
structure Usage where
  settled : List (Parameter × String)
  pending?   : Option (Parameter × Option String)
  deriving DecidableEq, Repr

namespace Usage

def none : Usage where
  settled := []
  pending?   := .none

-- Every parameter can be used once.
def give (given : List (Parameter × String)) (p : Parameter) (value : String) :
    Except Misuse (List (Parameter × String)) :=
  if given.any (·.1 = p) then .error (.repeated p)
  else if p.isFile && value.isEmpty then .error (.missingValue p)
  else .ok (given ++ [(p, value)])

def settle (u : Usage) : Except Misuse (List (Parameter × String)) :=
  match u.pending? with
  | .none                 => .ok u.settled
  | some (p, .none)       => .error (.missingValue p)
  | some (p, some value)  => give u.settled p value

-- The use of a parameter that stands without a value.
def useFlag (u : Usage) (p : Parameter) : Except Stop Usage :=
  match u.settle, p with
  | .error m, _        => .error (.misuse m)
  | .ok _,    .help    => .error .help
  | .ok _,    .version => .error .version
  | .ok g,    p        =>
    match give g p "" with
    | .ok g    => .ok ⟨g, .none⟩
    | .error m => .error (.misuse m)

-- The use of a parameter that takes a value. A value that is part of the same argument is looked at at once.
def useValue (u : Usage) (p : Parameter) (value? : Option String) : Except Misuse Usage := do
  let g ← u.settle
  match value? with
  | .none      => return ⟨g, some (p, .none)⟩
  | some value => return ⟨← give g p value, .none⟩

-- Reads one argument that does not follow a separator.
def next (u : Usage) (text : String) : Except Stop Usage :=
  match Argument.ofText text with
  | .named name value? =>
    match Parameter.ofName? name with
    | .none  => .error (.misuse (.unexpected ("--" ++ String.ofList name)))
    | some p =>
      match p.value?, value? with
      | some _, _          => (u.useValue p value?).mapError .misuse
      | .none,  some value => .error (.misuse (.unexpectedValue value p))
      | .none,  .none      => u.useFlag p
  | .lettered c =>
    match Parameter.ofLetter? c with
    | .none  => .error (.misuse (.unexpected (String.ofList ['-', c])))
    | some p => u.useFlag p
  | _ =>
    match u.pending? with
    | some (p, .none) => .ok ⟨u.settled, some (p, some text)⟩
    | _               => .error (.misuse (.unexpected text))

-- Nothing can follow a separator.
def read (u : Usage) : List String → Except Stop (List (Parameter × String))
  | []           => u.settle.mapError .misuse
  | text :: rest =>
    match Argument.ofText text with
    | .separator =>
      match rest with
      | []     => u.settle.mapError .misuse
      | a :: _ => .error (.misuse (.unexpected a))
    | _ =>
      match u.next text with
      | .ok u    => u.read rest
      | .error s => .error s

end Usage

-- What is to be generated from which file, and where it is to be written.
structure Arguments where
  input     : FilePath
  root      : String
  project   : Option String
  output    : Option FilePath
  scaffold  : Option FilePath
  typesPath : String
  gate      : Option String
  debug     : Bool
  deriving DecidableEq, Repr

namespace Arguments

-- The input is named on the command line or by a variable.
def input? (env : Environment) (given : List (Parameter × String)) : Except Misuse String :=
  match given.lookup .input, env Parameter.inputVariable with
  | some path, _           => .ok path
  | none,      some []     => .error (.missingValue .input)
  | none,      some octets => .ok (String.ofList (Text.Utf8.decodeLossy octets))
  | none,      none        => .error .noInput

def ofGiven (env : Environment) (given : List (Parameter × String)) : Except Misuse Arguments := do
  return {
    input     := .ofText (← input? env given)
    root      := (given.lookup .root).getD "Config"
    project   := given.lookup .project
    output    := (given.lookup .output).map .ofText
    scaffold  := (given.lookup .scaffold).map .ofText
    typesPath := (given.lookup .typesPath).getD Generator.defaultTypesPath
    gate      := given.lookup .gate
    debug     := (given.lookup .debug).isSome }

def read (env : Environment) (args : List String) : Except Stop Arguments := do
  let given ← Usage.none.read args
  (ofGiven env given).mapError .misuse

-- The name of the directory in which the program runs is the project's name by default.
def generator (a : Arguments) (directory : String) : Generator :=
  let g := (Generator.ofRoot a.root).withProject (a.project.getD directory) |>.withTypesPath a.typesPath
  a.gate.elim g g.withGate

def extension : String :=
  "rs"

def defaultOutput : String :=
  "config_gen.rs"

-- The file of the module: next to the input if none is given, and always with the extension of a source file.
def modulePath (a : Arguments) : FilePath :=
  match a.output with
  | none   => (a.input.parent?.getD (.ofText "")).join defaultOutput
  | some p => if p.hasExtension extension then p else p.append ("." ++ extension)

def outputs (a : Arguments) (g : Generated) : List OutputFile :=
  ⟨a.modulePath, g.text⟩ :: a.scaffold.toList.map (⟨·, g.scaffold⟩)

end Arguments
end EnvConfig
