-- Texts that are written on a terminal. Control sequences in them change how what follows looks, or do
-- something else that is no text.

namespace EnvConfig.Text.Terminal

-- Where in a control sequence a reader stands.
inductive State where
  | ground
  | escape
  | intermediate
  | parameters
  | command
  | device
  | string
  deriving DecidableEq, Repr

namespace State

def isBetween (first last c : Char) : Bool :=
  first ≤ c && c ≤ last

-- What stands behind the character that starts every sequence.
def behindEscape (c : Char) : State :=
  if c = '[' then parameters
  else if c = ']' then command
  else if c = 'P' then device
  else if c = 'X' || c = '^' || c = '_' then string
  else if isBetween ' ' '/' c then intermediate
  else if isBetween '0' '~' c then ground
  else escape

-- The state behind one more character. Three characters mean the same everywhere: one starts a sequence, and
-- two end it early.
def next (s : State) (c : Char) : State :=
  if c = '\x1b' then escape
  else if c = '\x18' || c = '\x1a' then ground
  else
    match s with
    | ground       => ground
    | escape       => behindEscape c
    | intermediate => if isBetween '0' '~' c then ground else s
    | parameters   => if isBetween '@' '~' c then ground else s
    | command      => if c = '\x07' then ground else s
    | device       => if isBetween '@' '~' c then string else s
    | string       => if endsString c then ground else s
where
  -- The octet that ends a string may be part of a character.
  endsString (c : Char) : Bool :=
    c.toNat ≥ 128 && (String.singleton c).toUTF8.data.contains 0x9c

-- Space that is no blank, and which does not end a sequence.
def isControlSpace (c : Char) : Bool :=
  c = '\t' || c = '\n' || c = '\x0c' || c = '\x0d'

-- Whether a character is written where it stands in a state.
def shows (s : State) (c : Char) : Bool :=
  match s with
  | ground                             => isControlSpace c || isBetween ' ' '~' c || c.toNat ≥ 128
  | escape | intermediate | parameters => isControlSpace c
  | command | device | string          => false

end State

-- The characters that are written. `running` says that the last character was one of them: then the next one
-- is looked at as if no sequence had been started.
def written (s : State) (running : Bool) : List Char → List Char
  | []      => []
  | c :: cs =>
    if running && State.ground.shows c then
      c :: written (if c.toNat ≥ 128 then .ground else s) true cs
    else if s.shows c then c :: written (s.next c) true cs
    else written (s.next c) false cs

-- The text without control sequences and control characters.
def plain (text : String) : String :=
  String.ofList (written .ground false text.toList)

-- A text that stands out on a terminal.
def emphasized (text : String) : String :=
  "\x1b[1m" ++ text ++ "\x1b[0m"

end EnvConfig.Text.Terminal
