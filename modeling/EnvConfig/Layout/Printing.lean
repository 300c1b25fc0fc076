import EnvConfig.Layout.Document

-- From documents to texts.

namespace EnvConfig.Layout

-- A mark and how much text is to be written up to the next place at which a line may end. For a break this
-- is the next break of its group, or of a group around that. For a group it is the next break behind the
-- group.
structure Measured where
  mark : Mark
  size : Nat

-- The marks from some point on. `widths` holds the measure of that point for each group around it, the
-- innermost first.
structure Measure where
  marks  : List Measured
  widths : List Nat

namespace Measure

def add (w : Nat) (m : Measure) : List Nat :=
  m.widths.map (· + w)

def step (mark : Mark) (m : Measure) : Measure :=
  match mark, m.widths with
  | .break b, w :: outer => ⟨⟨mark, w + b.blanks⟩ :: m.marks, 0 :: outer.map (· + b.blanks)⟩
  | .close, w :: outer   => ⟨⟨mark, 0⟩ :: m.marks, w :: w :: outer⟩
  | .open .., _ :: outer => ⟨⟨mark, outer.head?.getD 0⟩ :: m.marks, outer⟩
  | _, _                 => ⟨⟨mark, mark.width⟩ :: m.marks, m.add mark.width⟩

end Measure

def Document.measured (d : Document) : List Measured :=
  (d.foldr Measure.step ⟨[], [0]⟩).marks

-- The width of a line, and how much of it a deeply indented line may use at least.
def margin : Int :=
  89

def leastSpace : Int :=
  60

-- A group that is being written: it fits, or it has been broken, and the indentation outside of it.
inductive Frame where
  | fits
  | broken (outer : Int) (consistent : Bool)

-- Spaces at the end of a line are not written, so they have to wait for what follows them.
structure Page where
  written : List Char
  space   : Int
  indent  : Int
  pending : Nat
  frames  : List Frame

namespace Page

def blank : Page where
  written := []
  space   := margin
  indent  := 0
  pending := 0
  frames  := []

-- `written` is kept in reverse.
def put (t : String) (p : Page) : Page :=
  { p with
    written := t.toList.reverse ++ (List.replicate p.pending ' ' ++ p.written)
    pending := 0
    space   := p.space - t.utf8ByteSize }

-- Puts a text that does not count and which does not wait for spaces, if it is not empty.
def putMark (t : String) (p : Page) : Page :=
  if t.isEmpty then p else { p.put t with space := p.space }

def breakFits (b : Break) (size : Nat) (p : Page) : Bool :=
  b.never || b.ifRoom && p.space < 0 ||
    match p.frames with
    | .fits :: _              => true
    | .broken _ consistent :: _ => !consistent && size ≤ p.space
    | []                      => size ≤ p.space

-- What is written instead of a line's end stands in front of the blanks.
def stayOnLine (b : Break) (p : Page) : Page :=
  { p with
    written := b.instead.toList.reverse ++ p.written
    pending := p.pending + b.blanks
    space   := p.space - b.blanks - b.instead.utf8ByteSize }

def endLine (b : Break) (p : Page) : Page :=
  let p := p.putMark b.before
  let indent := p.indent + b.offset
  let p := { p with
    written := '\n' :: p.written
    pending := indent.toNat
    space   := max (margin - indent) leastSpace }
  if b.after.isEmpty then p else p.put b.after

def write (p : Page) (m : Measured) : Page :=
  match m.mark with
  | .text t | .comment t => p.put t
  | .wide    => p.put ""
  | .break b => if p.breakFits b m.size then p.stayOnLine b else p.endLine b
  | .open indent consistent =>
    if m.size > p.space then
      { p with frames := .broken p.indent consistent :: p.frames, indent := p.indent + indent }
    else { p with frames := .fits :: p.frames }
  | .close   =>
    match p.frames with
    | .broken outer _ :: frames => { p with frames := frames, indent := outer }
    | _ :: frames               => { p with frames := frames }
    | []                        => p

def text (p : Page) : String :=
  String.ofList p.written.reverse

end Page

def Document.print (d : Document) : String :=
  (d.measured.foldl Page.write .blank).text

end EnvConfig.Layout
