import EnvConfig.FileTree.Path
import EnvConfig.Problem
import EnvConfig.Text.Utf8

-- A tree of directories and files, and what becomes of it when a program reads and writes.

namespace EnvConfig

-- The names on the way down from the root.
abbrev Location := List String

inductive Entry where
  | directory
  | file (content : List UInt8)
  deriving DecidableEq, Repr

structure FileTree where
  entries : List (Location × Entry)
  deriving Repr

namespace FileTree

def empty : FileTree where
  entries := []

-- The root is always there.
def get? (t : FileTree) (l : Location) : Option Entry :=
  if l = [] then some .directory else t.entries.lookup l

def put (t : FileTree) (l : Location) (e : Entry) : FileTree where
  entries := t.entries.filter (·.1 ≠ l) ++ [(l, e)]

def isDirectory (t : FileTree) (l : Location) : Bool :=
  t.get? l = some .directory

-- The directories that hold a location, from the root down.
def above (l : Location) : List Location :=
  (List.range l.length).map l.take

-- Puts something into the tree, together with the directories above it.
def plant (t : FileTree) (l : Location) (e : Entry) : FileTree :=
  ((above l).foldl (·.put · .directory) t).put l e

-- What a later tree holds that this one does not.
def changes (t later : FileTree) : List (Location × Entry) :=
  later.entries.filter fun (l, e) => t.get? l ≠ some e

-- The most octets that a name and a path can have.
def longestName : Nat :=
  255

def longestPath : Nat :=
  4095

def next (t : FileTree) (l : Location) : Step → Except FileProblem Location
  | .here      => .ok l
  | .up        => .ok l.dropLast
  | .down name =>
    if name.utf8ByteSize > longestName then .error .invalidFilename
    else if (t.get? (l ++ [name])).isSome then .ok (l ++ [name])
    else .error .notFound

-- Steps can only be taken in directories.
def follow (t : FileTree) : Location → List Step → Except FileProblem Location
  | l, []      => .ok l
  | l, s :: ss =>
    if t.isDirectory l then
      match t.next l s with
      | .ok m    => t.follow m ss
      | .error e => .error e
    else .error .notADirectory

-- No path can hold the character zero, and an empty one leads nowhere.
def checkPath (p : FilePath) : Except FileProblem Unit :=
  if p.text.toList.contains (Char.ofNat 0) then .error .invalidInput
  else if p.text.isEmpty then .error .notFound
  else if p.text.utf8ByteSize > longestPath then .error .invalidFilename
  else .ok ()

def start (cwd : Location) (p : FilePath) : Location :=
  if p.fromRoot then [] else cwd

-- What a path leads to.
def find (t : FileTree) (cwd : Location) (p : FilePath) : Except FileProblem (Location × Entry) := do
  checkPath p
  let l ← t.follow (start cwd p) p.steps
  match t.get? l with
  | none                => .error .notFound
  | some (.directory)   => return (l, .directory)
  | some (.file octets) => if p.closed then .error .notADirectory else return (l, .file octets)

def isDirectoryAt (t : FileTree) (cwd : Location) (p : FilePath) : Bool :=
  match t.find cwd p with
  | .ok (_, .directory) => true
  | _                   => false

-- The place that a path names, whether there is anything or not. A path that does not end in a name leads
-- to a directory that is there already, and names no place.
def target (t : FileTree) (cwd : Location) (p : FilePath) : Except FileProblem (Option Location) := do
  checkPath p
  let l ← t.follow (start cwd p) p.steps.dropLast
  if t.isDirectory l then
    match p.steps.getLast? with
    | some (.down name) =>
      if name.utf8ByteSize > longestName then .error .invalidFilename
      else return some (l ++ [name])
    | _ => return none
  else .error .notADirectory

def read (t : FileTree) (cwd : Location) (p : FilePath) : Except FileProblem (List UInt8) := do
  match ← t.find cwd p with
  | (_, .directory)   => .error .isADirectory
  | (_, .file octets) => return octets

-- The content of a file that has to be text.
def readText (t : FileTree) (cwd : Location) (p : FilePath) : Except FileProblem String := do
  match Text.Utf8.decode? (← t.read cwd p) with
  | some cs => return String.ofList cs
  | none    => .error .invalidData

def createDirectory (t : FileTree) (cwd : Location) (p : FilePath) : Except FileProblem FileTree := do
  match ← t.target cwd p with
  | none   => .error .alreadyExists
  | some l => if (t.get? l).isSome then .error .alreadyExists else return t.put l .directory

-- Writes a file, instead of what it held before if it is there.
def write (t : FileTree) (cwd : Location) (p : FilePath) (content : List UInt8) :
    Except FileProblem FileTree := do
  match ← t.target cwd p with
  | none   => .error .isADirectory
  | some l =>
    if p.closed || t.isDirectory l then .error .isADirectory
    else return t.put l (.file content)

-- What an attempt leaves behind, and the problem if it failed.
abbrev Attempt (ε : Type) := FileTree × Option ε

-- Creates a directory and, where they are missing, those above it. The steps are given from the last to the
-- first. What has been created before a problem remains.
def createAll (t : FileTree) (cwd : Location) (fromRoot : Bool) : List Step → Attempt FileProblem
  | []         => (t, none)
  | s :: steps =>
    let p := FilePath.ofSteps fromRoot (s :: steps).reverse
    match t.createDirectory cwd p with
    | .ok t'           => (t', none)
    | .error .notFound =>
      match t.createAll cwd fromRoot steps with
      | (t', some e) => (t', some e)
      | (t', none)   =>
        match t'.createDirectory cwd p with
        | .ok t''  => (t'', none)
        | .error e => (t', if t'.isDirectoryAt cwd p then none else some e)
    | .error e => (t, if t.isDirectoryAt cwd p then none else some e)

def createParents (t : FileTree) (cwd : Location) (p : FilePath) : Attempt FileProblem :=
  match p.parent? with
  | some parent => t.createAll cwd parent.fromRoot parent.steps.reverse
  | none        => (t, none)

-- Writes a file into a directory that is created if need be.
def save (t : FileTree) (cwd : Location) (p : FilePath) (text : String) : Attempt FileProblem :=
  match t.createParents cwd p with
  | (t', some e) => (t', some e)
  | (t', none)   =>
    match t'.write cwd p text.toUTF8.data.toList with
    | .ok t''  => (t'', none)
    | .error e => (t', some e)

end FileTree
end EnvConfig
