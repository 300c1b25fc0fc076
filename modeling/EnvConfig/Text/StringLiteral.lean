import EnvConfig.Text.Printable

-- The text of a string literal that stands for given characters.

namespace EnvConfig.Text

def hexDigit (n : Nat) : Char :=
  Nat.digitChar n

def hexValue (digits : List Char) : Nat :=
  digits.foldl (fun n c => 16 * n + value c) 0
where
  value (c : Char) : Nat :=
    if c.isDigit then c.toNat - '0'.toNat
    else if 'a' ≤ c then c.toNat - 'a'.toNat + 10
    else c.toNat - 'A'.toNat + 10

def unicodeEscape (c : Char) : List Char :=
  ['\\', 'u', '{'] ++ Nat.toDigits 16 c.toNat ++ ['}']

def escapeChar (c : Char) : List Char :=
  match c with
  | '\t' => ['\\', 't']
  | '\r' => ['\\', 'r']
  | '\n' => ['\\', 'n']
  | '"'  => ['\\', '"']
  | '\\' => ['\\', '\\']
  | _    => if isPrintable c then [c] else unicodeEscape c

-- A zero is written in two characters, or in four where a digit behind it would make it another escape.
def escape : List Char → List Char
  | [] => []
  | c :: cs =>
    if c == '\x00' then
      let octal := cs.head?.any fun d => '0' ≤ d && d ≤ '7'
      (if octal then ['\\', 'x', '0', '0'] else ['\\', '0']) ++ escape cs
    else escapeChar c ++ escape cs

def quote (text : List Char) : String :=
  String.ofList ('"' :: escape text ++ ['"'])

end EnvConfig.Text
