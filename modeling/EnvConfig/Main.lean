import EnvConfig.CommandLine.Run

-- The program: a run on the files of the computer that it is started on.

namespace EnvConfig.Program

def fileProblem : IO.Error → FileProblem
  | .noFileOrDirectory ..    => .notFound
  | .alreadyExists ..        => .alreadyExists
  | .inappropriateType ..    => .isADirectory
  | .permissionDenied ..     => .permissionDenied
  | .invalidArgument ..      => .invalidInput
  | _                        => .notADirectory

def attempt {α} (problem : FileProblem → Problem) (act : IO α) : ExceptT Problem IO α := do
  match ← act.toBaseIO with
  | .ok a    => return a
  | .error e => throw (problem (fileProblem e))

def readText (p : FilePath) : ExceptT Problem IO String := do
  let octets ← attempt (.read p.text) (IO.FS.readBinFile p.text)
  match Text.Utf8.decode? octets.data.toList with
  | some cs => return String.ofList cs
  | none    => throw (.read p.text .invalidData)

def save (f : OutputFile) : ExceptT Problem IO Unit :=
  attempt (.write f.path.text) do
    if let some parent := f.path.parent? then
      unless parent.text.isEmpty do
        IO.FS.createDirAll parent.text
    IO.FS.writeFile f.path.text f.text

def generate (a : Arguments) : ExceptT Problem IO Unit := do
  let cwd ← IO.currentDir
  let source ← readText a.input
  let g ← ((a.generator (cwd.fileName.getD "")).generate a.input.text source : Except Problem Generated)
  (a.outputs g).forM save

-- The environment holds text only, as far as the program can see.
def environment : IO Environment := do
  let input ← IO.getEnv Parameter.inputVariable
  return fun name =>
    if name = Parameter.inputVariable then input.map (·.toUTF8.data.toList) else none

def conclude (o : Outcome) : IO UInt32 := do
  IO.print o.output
  if let some report := o.report? then
    IO.eprintln report
  if let .failed p := o then
    IO.eprintln ("\n  " ++ p.message)
    if let some help := p.help? then
      IO.eprintln ("  help: " ++ help)
  return o.exitCode.toUInt32

end EnvConfig.Program

open EnvConfig in
def main (args : List String) : IO UInt32 := do
  let env ← Program.environment
  match Arguments.read env args with
  | .error s => Program.conclude (.ofStop env s)
  | .ok a    =>
    match ← (Program.generate a).run with
    | .ok ()   => Program.conclude .written
    | .error p => Program.conclude (.failed p)
