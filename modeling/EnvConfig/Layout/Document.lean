-- Texts with places at which a line may end. A document is a list of marks, in which groups of marks are
-- enclosed by `open` and `close`. If a group does not fit onto its line, then either all of its own breaks
-- end the line, or those do behind which the text up to the next break does not fit.

namespace EnvConfig.Layout

-- A place at which a line may end. If it does, `before` is written in front of the line's end and `after`
-- at the start of the next line, which is indented by `offset` more than the group. If not, `blanks` and
-- `instead` are written.
structure Break where
  offset  : Int := 0
  blanks  : Nat := 0
  before  : String := ""
  after   : String := ""
  instead : String := ""
  -- Whether the break ends no line at the end of its group.
  inner   : Bool := false
  -- Whether the line never ends here.
  never   : Bool := false
  -- Whether the line ends here only if there is room left on it.
  ifRoom  : Bool := false
  deriving DecidableEq, Repr

-- A text, a break, or one end of a group. A comment is a text that is no code. `wide` writes nothing but
-- never fits.
inductive Mark where
  | text    (text : String)
  | comment (text : String)
  | wide
  | break   (b : Break)
  | open    (indent : Int) (consistent : Bool)
  | close
  deriving DecidableEq, Repr

abbrev Document := List Mark

-- More than any line can hold.
def infinite : Nat :=
  0xffff

def Mark.width : Mark → Nat
  | .text t | .comment t => t.utf8ByteSize
  | .wide    => infinite
  | .break b => b.blanks
  | _        => 0

namespace Document

def width : Document → Nat
  | []      => 0
  | m :: ms => m.width + width ms

-- The code of the document on one line.
def flat (d : Document) : String :=
  String.join (d.map fun
    | .text t  => t
    | .break b => b.instead ++ if b.blanks = 0 then "" else " "
    | _        => "")

-- The document without any space.
def dense (d : Document) : String :=
  String.ofList (d.flat.toList.filter (· != ' '))

def indentation : Int :=
  4

def text (t : String) : Document :=
  [.text t]

def comment (t : String) : Document :=
  [.comment t]

def breaking (b : Break) : Document :=
  [.break b]

def space : Document :=
  breaking { blanks := 1 }

def zero : Document :=
  breaking {}

-- A place at which only the measure of what stands before it ends.
def never : Document :=
  breaking { never := true }

-- The end of a line in any case.
def line : Document :=
  breaking { blanks := infinite }

-- The last line of a block ends in front of the block's closing brace.
def lastLine : Document :=
  breaking { blanks := infinite, offset := -indentation }

-- The end of a line unless nothing follows in the group.
def innerLine : Document :=
  breaking { blanks := infinite, inner := true }

-- A break at the end of a group ends no line if it asks for that. It still ends the measure of what stands
-- before it.
def withoutInnerBreak (d : Document) : Document :=
  match d.getLast? with
  | some (.break b) => if b.inner then d.dropLast ++ never else d
  | _               => d

-- A group of nothing but a break is nothing.
def enclose (indent : Int) (consistent : Bool) (d : Document) : Document :=
  match d with
  | [.break _] => []
  | _          => .open indent consistent :: withoutInnerBreak d ++ [.close]

-- A group all of whose breaks end the line, or none.
def together (indent : Int) (d : Document) : Document :=
  enclose indent true d

-- A group in which a break ends the line only where that is needed.
def filled (indent : Int) (d : Document) : Document :=
  enclose indent false d

-- The items one after the other, each but the last with a document behind it.
def separatedBy (separator : Document) : List Document → Document
  | []      => []
  | [d]     => d
  | d :: ds => d ++ separator ++ separatedBy separator ds

-- A comma that is written only at the end of a line. What follows stands outside of the indented group.
def trailingComma (blanks : Nat) : Document :=
  breaking { blanks := blanks, before := ",", offset := -indentation }

-- Items with commas between them, in a group of their own.
def commaSeparated (ds : List Document) : Document :=
  match ds with
  | [] => []
  | _  => together indentation (zero ++ separatedBy (text "," ++ space) ds ++ trailingComma 0)

end Document
end EnvConfig.Layout
