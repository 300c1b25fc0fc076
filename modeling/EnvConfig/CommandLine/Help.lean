import EnvConfig.CommandLine.Arguments

-- What the program tells about itself.

namespace EnvConfig

namespace Parameter

def description : Parameter → String
  | input     => "Rust source file declaring the config struct"
  | root      => "Name of the root config struct [default: Config]"
  | project   => "Prefix of every variable name [default: current directory name]"
  | output    => "Where to write the loader module [default: config_gen.rs beside the input]"
  | scaffold  => "Also write a .env scaffold listing every variable"
  | typesPath =>
    "Module path the structs are imported from; `self` disables the import [default: super]"
  | gate    => "Gate every generated item behind #[cfg(PREDICATE)]"
  | debug   => "Debug logging"
  | help    => "Print help"
  | version => "Print version"

end Parameter

namespace Help

def programName : String :=
  "envgen"

def version : String :=
  programName ++ " 0.1.0\n"

-- Where the descriptions begin on their lines.
def column : Nat :=
  27

-- A parameter's letter, if it has one, and its name, with blanks up to the description. The name stands out
-- on a terminal, as does everything that is written literally.
def label (p : Parameter) : String :=
  let start := p.letter?.elim "      " fun c => String.ofList [' ', ' ', '-', c, ',', ' ']
  start ++ Text.Terminal.emphasized p.shown ++
    String.ofList (List.replicate (column - (start ++ p.shown).length) ' ')

-- Where a default comes from the environment, its current value is shown, with its further lines below the
-- first.
def current (env : Environment) : Parameter → String
  | .input =>
    let value := Text.Utf8.decodeLossy ((env Parameter.inputVariable).getD [])
    let shown := value.flatMap fun c => if c = '\n' then c :: List.replicate column ' ' else [c]
    " [env: " ++ Parameter.inputVariable ++ "=" ++ String.ofList shown ++ "]"
  | _ => ""

def line (env : Environment) (p : Parameter) : String :=
  label p ++ p.description ++ current env p ++ "\n"

def report (env : Environment) : String :=
  "Generate an environment variable loader for a config struct\n\nUsage: " ++ programName ++
    " [OPTIONS] " ++ Parameter.input.shown ++ "\n\nOptions:\n" ++
    String.join (Parameter.all.map (line env))

-- The help as it is written to a file.
def text (env : Environment) : String :=
  Text.Terminal.plain (report env)

end Help
end EnvConfig
