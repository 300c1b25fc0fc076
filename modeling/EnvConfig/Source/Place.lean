import EnvConfig.Text.Blank

-- Places in a text, by line and column, and the bytes that are found there.

namespace EnvConfig.Source

open Text

-- A place in a text. Lines are counted from one, and the characters of a line from zero.
structure Place where
  line   : Nat
  column : Nat
  deriving DecidableEq, Repr

-- The number of bytes that characters take.
def byteSize : List Char → Nat
  | []      => 0
  | c :: cs => c.utf8Size + byteSize cs

-- The lines of a text, each with the line feed that ends it.
def lines : List Char → List (List Char)
  | []      => []
  | c :: cs =>
    if c = '\n' then [c] :: lines cs
    else
      match lines cs with
      | []      => [[c]]
      | l :: ls => (c :: l) :: ls

def withoutLineFeed (line : List Char) : List Char :=
  if line.getLast? = some '\n' then line.dropLast else line

namespace Place

def start : Place where
  line   := 1
  column := 0

-- The place behind one more character.
def next (p : Place) (c : Char) : Place :=
  if c = '\n' then ⟨p.line + 1, 0⟩ else ⟨p.line, p.column + 1⟩

-- The place of the character at a position.
def ofPosition (s : List Char) (pos : Nat) : Place :=
  (s.take pos).foldl next start

def offsetInLine (line : List Char) (column : Nat) : Nat :=
  byteSize (if column < line.length then line.take column else withoutLineFeed line)

-- How many bytes of a text stand before a place. A place behind the end of its line counts as that end, and
-- a line that does not exist as the end of the text.
def offset (p : Place) (s : List Char) : Nat :=
  match p.line with
  | 0     => byteSize s
  | n + 1 =>
    match (lines s)[n]? with
    | some line => byteSize ((lines s).take n).flatten + offsetInLine line p.column
    | none      => byteSize s

end Place

structure Span where
  offset : Nat
  length : Nat
  deriving DecidableEq, Repr

namespace Span

-- The characters behind the first bytes of a text, unless those end inside a character.
def textFrom : Nat → List Char → Option (List Char)
  | 0,     s       => some s
  | _ + 1, []      => none
  | n + 1, c :: cs => if c.utf8Size ≤ n + 1 then textFrom (n + 1 - c.utf8Size) cs else none

-- One blank character, or all characters up to the next one.
def firstWord : List Char → List Char
  | []      => []
  | c :: cs => if isBlank c then [c] else c :: cs.takeWhile (!isBlank ·)

-- What is marked where a text cannot be read.
def ofPlace (p : Place) (s : List Char) : Span :=
  let offset := min (p.offset s) (byteSize s)
  ⟨offset, byteSize (firstWord ((textFrom offset s).getD []))⟩

end Span
end EnvConfig.Source
