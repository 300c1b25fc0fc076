-- Paths of files and directories, as a user writes them.

namespace EnvConfig

-- A step stays in a directory, goes up to the one that holds it, or goes down to something in it.
inductive Step where
  | here
  | up
  | down (name : String)
  deriving DecidableEq, Repr

namespace Step

-- What a piece between two slashes means. Nothing stands between slashes that follow each other.
def ofPiece? (piece : List Char) : Option Step :=
  if piece = [] then none
  else if piece = ['.'] then some here
  else if piece = ['.', '.'] then some up
  else some (down (String.ofList piece))

def text : Step → String
  | here      => "."
  | up        => ".."
  | down name => name

end Step

-- The text of a path, and what it says: whether the way starts at the root of the file tree, its steps, and
-- whether it ends in a slash and so can only lead to a directory.
structure FilePath where
  text     : String
  fromRoot : Bool
  steps    : List Step
  closed   : Bool
  deriving DecidableEq, Repr

namespace FilePath

-- The pieces before, between and after the slashes.
def pieces : List Char → List (List Char)
  | []      => [[]]
  | c :: cs =>
    if c = '/' then [] :: pieces cs
    else
      match pieces cs with
      | []      => [[c]]
      | p :: ps => (c :: p) :: ps

def ofText (text : String) : FilePath where
  text     := text
  fromRoot := text.toList.head? = some '/'
  steps    := (pieces text.toList).filterMap Step.ofPiece?
  closed   := text.toList.getLast? = some '/'

def ofSteps (fromRoot : Bool) (steps : List Step) : FilePath where
  text     := (if fromRoot then "/" else "") ++ "/".intercalate (steps.map Step.text)
  fromRoot := fromRoot
  steps    := steps
  closed   := false

-- The steps without those that stay where they are, except one that a path starts with.
def essential (p : FilePath) : List Step :=
  match p.fromRoot, p.steps with
  | false, .here :: ss => .here :: ss.filter (· ≠ .here)
  | _,     ss          => ss.filter (· ≠ .here)

-- The path up to its last step.
def parent? (p : FilePath) : Option FilePath :=
  if p.essential = [] then none
  else some (ofSteps p.fromRoot p.essential.dropLast)

def name? (p : FilePath) : Option String :=
  match p.essential.getLast? with
  | some (.down name) => some name
  | _                 => none

-- A name that is nothing but a dot and the extension does not have the extension.
def hasExtension (p : FilePath) (extension : String) : Bool :=
  p.name?.any fun name =>
    name ≠ "." ++ extension && ("." ++ extension).toList.isSuffixOf name.toList

-- The same path with something written behind it.
def append (p : FilePath) (text : String) : FilePath :=
  ofText (p.text ++ text)

-- The path of a name in a directory.
def join (p : FilePath) (name : String) : FilePath where
  text     := p.text ++ (if p.text.toList.getLast?.all (· = '/') then "" else "/") ++ name
  fromRoot := p.fromRoot
  steps    := p.steps ++ [.down name]
  closed   := false

end FilePath
end EnvConfig
