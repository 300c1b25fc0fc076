import EnvConfig.Source.Token
import EnvConfig.Text.Blank
import EnvConfig.Text.NameChar
import EnvConfig.Text.StringLiteral

-- From characters to tokens. A reader of one kind of lexeme takes the characters from some point on and
-- gives back those after the lexeme, or nothing if no such lexeme starts there.

namespace EnvConfig.Source.Scan

open Text

abbrev Reader := List Char → Option (List Char)

def startsWith (lead : String) (s : List Char) : Bool :=
  lead.toList.isPrefixOf s

def literally (lead : String) : Reader := fun s =>
  if startsWith lead s then some (s.drop lead.length) else none

-- A name and what follows it.
def splitName : List Char → Option (List Char × List Char)
  | c :: cs =>
    if isNameStart c then some (c :: cs.takeWhile isNameContinue, cs.dropWhile isNameContinue)
    else none
  | [] => none

theorem splitName.isWord {s word rest : List Char} (h : splitName s = some (word, rest)) :
    isWord word := by
  cases s
  case nil => simp [splitName] at h
  case cons c cs =>
    simp only [splitName, Option.ite_none_right_eq_some, Option.some.injEq, Prod.mk.injEq] at h
    obtain ⟨hc, rfl, -⟩ := h
    simp [Text.isWord, hc]

def name : Reader := fun s =>
  (splitName s).map (·.2)

-- What stands before the rest of a text.
def before (s rest : List Char) : List Char :=
  s.take (s.length - rest.length)

-- Letters directly behind a literal are its suffix.
def suffix (s : List Char) : List Char :=
  (name s).getD s

def lineEnd : List Char → List Char
  | '\r' :: '\n' :: cs => '\n' :: cs
  | '\n' :: cs         => '\n' :: cs
  | _ :: cs            => lineEnd cs
  | []                 => []

-- Block comments nest. `depth` counts the comments that are open around the current point.
def blockEnd : Nat → Reader
  | d, '/' :: '*' :: cs => blockEnd (d + 1) cs
  | 1, '*' :: '/' :: cs => some cs
  | d, '*' :: '/' :: cs => blockEnd (d - 1) cs
  | d, _ :: cs          => blockEnd d cs
  | _, []               => none

def blockComment : Reader
  | '/' :: '*' :: cs => blockEnd 1 cs
  | _                => none

-- Comments that document the item behind them (or around them, with a `!`) are not space.
def isPlainLineComment (s : List Char) : Bool :=
  startsWith "//" s && (!startsWith "///" s || startsWith "////" s) && !startsWith "//!" s

def isPlainBlockComment (s : List Char) : Bool :=
  startsWith "/**/" s ||
    startsWith "/*" s && (!startsWith "/**" s || startsWith "/***" s) && !startsWith "/*!" s

-- Marks of writing direction count as space too.
def isSpace (c : Char) : Bool :=
  isBlank c || c == '\u200e' || c == '\u200f'

-- A round takes at least one character, so the characters of the text bound the rounds.
def skipRounds : List Char → List Char → List Char
  | [],          s => s
  | _ :: rounds, s =>
    if isPlainLineComment s then skipRounds rounds (lineEnd s)
    else if isPlainBlockComment s then
      match blockComment s with
      | some rest => skipRounds rounds rest
      | none      => s
    else
      match s with
      | c :: cs => if isSpace c then skipRounds rounds cs else s
      | []      => []

def skipSpace (s : List Char) : List Char :=
  skipRounds s s

-- How many characters of space and comments a text starts with, and what follows. A comment can only be
-- where there is a slash.
def leadingSpace (s : List Char) : Nat × List Char :=
  let (blanks, rest) := s.span isSpace
  match rest with
  | '/' :: _ =>
    let after := skipSpace rest
    (blanks.length + (before rest after).length, after)
  | _ => (blanks.length, rest)

def isHex (c : Char) : Bool :=
  c.isDigit || 'a' ≤ c && c ≤ 'f' || 'A' ≤ c && c ≤ 'F'

-- The digits of `\u{…}`, the braces and underscores aside: one to six.
def unicodeDigits (digits : List Char) : List Char → Option (Nat × List Char)
  | '}' :: cs => if digits.isEmpty then none else some (hexValue digits.reverse, cs)
  | '_' :: cs => if digits.isEmpty then none else unicodeDigits digits cs
  | c :: cs   => if isHex c && digits.length < 6 then unicodeDigits (c :: digits) cs else none
  | []        => none

def unicodeEscape : List Char → Option (Nat × List Char)
  | '{' :: cs =>
    match unicodeDigits [] cs with
    | some (n, rest) => if n.isValidChar then some (n, rest) else none
    | none           => none
  | _ => none

-- The three kinds of text that a quoted literal may hold.
inductive Quoted where
  | text
  | bytes
  | cText
  deriving DecidableEq

namespace Quoted

def hexEscape (q : Quoted) : Reader
  | a :: b :: cs =>
    match q with
    | text  => if '0' ≤ a && a ≤ '7' && isHex b then some cs else none
    | bytes => if isHex a && isHex b then some cs else none
    | cText => if isHex a && isHex b && !(a == '0' && b == '0') then some cs else none
  | _ => none

-- An escape, from behind its backslash on.
def escape (q : Quoted) : Reader
  | 'x' :: cs => q.hexEscape cs
  | 'u' :: cs =>
    match q, unicodeEscape cs with
    | text,  some (_, rest) => some rest
    | cText, some (n, rest) => if n = 0 then none else some rest
    | _,     _              => none
  | '0' :: cs => if q = cText then none else some cs
  | c :: cs   => if "nrt\\'\"".toList.contains c then some cs else none
  | []        => none

def allows (q : Quoted) (c : Char) : Bool :=
  match q with
  | text  => true
  | bytes => c.toNat < 128
  | cText => c != '\x00'

end Quoted

-- A backslash at the end of a line joins it to the next: what is behind the space that follows. `cr` says
-- that the last character was a carriage return, which needs a line feed.
def joinedLine (cr : Bool) : Reader
  | '\n' :: cs => joinedLine false cs
  | '\r' :: cs => if cr then none else joinedLine true cs
  | c :: cs    =>
    if cr then none
    else if c == ' ' || c == '\t' then joinedLine false cs
    else some (c :: cs)
  | [] => none

def cookedRounds (q : Quoted) : List Char → Reader
  | [],          _ => none
  | _ :: rounds, s =>
    match s with
    | '"' :: cs          => some (suffix cs)
    | '\r' :: '\n' :: cs => cookedRounds q rounds cs
    | '\r' :: _          => none
    | '\\' :: '\n' :: cs => (joinedLine false cs).bind (cookedRounds q rounds)
    | '\\' :: '\r' :: cs => (joinedLine true cs).bind (cookedRounds q rounds)
    | '\\' :: cs         => (q.escape cs).bind (cookedRounds q rounds)
    | c :: cs            => if q.allows c then cookedRounds q rounds cs else none
    | []                 => none

-- The rest of a quoted text in which a backslash starts an escape.
def cooked (q : Quoted) : Reader := fun s =>
  cookedRounds q s s

def rawBody (q : Quoted) (hashes : List Char) : Reader
  | '\r' :: '\n' :: cs => rawBody q hashes cs
  | '\r' :: _          => none
  | c :: cs            =>
    if c == '"' && hashes.isPrefixOf cs then some (suffix (cs.drop hashes.length))
    else if q.allows c then rawBody q hashes cs
    else none
  | [] => none

def rawQuoted (q : Quoted) : Reader := fun s =>
  let hashes := s.takeWhile (· == '#')
  match s.drop hashes.length with
  | '"' :: cs => if hashes.length ≤ 255 then rawBody q hashes cs else none
  | _         => none

def quoted (q : Quoted) (lead : String) : Reader := fun s =>
  match literally (lead ++ "\"") s with
  | some cs => cooked q cs
  | none    => (literally (lead ++ "r") s).bind (rawQuoted q)

def closeQuote : Reader
  | '\'' :: cs => some (suffix cs)
  | _          => none

def character : Reader
  | '\'' :: '\\' :: cs => (Quoted.text.escape cs).bind closeQuote
  | '\'' :: _ :: cs    => closeQuote cs
  | _                  => none

def byte : Reader
  | 'b' :: '\'' :: '\\' :: cs => (Quoted.bytes.escape cs).bind closeQuote
  | 'b' :: '\'' :: c :: cs    => if c.toNat < 128 then closeQuote cs else none
  | _                         => none

-- A number may not run into a name.
def numberEnd (s : List Char) : Option (List Char) :=
  let rest :=
    match s with
    | c :: _ => if isNameStart c then suffix s else s
    | []     => s
  match rest with
  | c :: _ => if isNameContinue c then none else some rest
  | []     => some rest

def isDigitOrUnderscore (c : Char) : Bool :=
  c.isDigit || c == '_'

-- The exponent behind its `e`. `signed` and `valued` say whether a sign and a digit have been seen.
def exponentEnd (signed valued : Bool) : Reader
  | c :: cs =>
    if c == '+' || c == '-' then
      if valued then some (c :: cs)
      else if signed then none
      else exponentEnd true valued cs
    else if c.isDigit then exponentEnd signed true cs
    else if c == '_' then exponentEnd signed valued cs
    else if valued then some (c :: cs) else none
  | [] => if valued then some [] else none

def startsExponent : List Char → Bool
  | c :: _ => c == 'e' || c == 'E'
  | []     => false

-- The digits of a number with a point, an exponent or both. Where the exponent has no value, a number
-- with a point ends before it.
def floatDigits : Reader
  | [] => none
  | d :: ds =>
    if !d.isDigit then none
    else
      let rest := ds.dropWhile isDigitOrUnderscore
      match rest with
      | '.' :: after =>
        if after.head?.any fun c => c == '.' || isNameStart c then none
        else
          let rest := after.dropWhile isDigitOrUnderscore
          if startsExponent rest then some ((exponentEnd false false rest.tail).getD rest)
          else some rest
      | c :: after => if startsExponent (c :: after) then exponentEnd false false after else none
      | [] => none

def float : Reader := fun s =>
  (floatDigits s).bind numberEnd

-- Digits of a number with the given base, from some point on. `empty` says that none has been seen.
def digitsFrom (base : Nat) (empty : Bool) : Reader
  | [] => if empty then none else some []
  | c :: cs =>
    if c.isDigit then
      if c.toNat - '0'.toNat < base then digitsFrom base false cs else none
    else if c == '_' then
      if empty && base == 10 then none else digitsFrom base empty cs
    else if isHex c && base == 16 then digitsFrom base false cs
    else if empty then none else some (c :: cs)

def digits (s : List Char) : Option (List Char) :=
  match s with
  | '0' :: 'x' :: cs => digitsFrom 16 true cs
  | '0' :: 'o' :: cs => digitsFrom 8 true cs
  | '0' :: 'b' :: cs => digitsFrom 2 true cs
  | _                => digitsFrom 10 true s

def int : Reader := fun s =>
  (digits s).bind numberEnd

def literal : Reader := fun s =>
  quoted .text "" s <|> quoted .bytes "b" s <|> quoted .cText "c" s <|> byte s <|> character s <|>
    float s <|> int s

def isPunct (c : Char) : Bool :=
  "~!@#$%^&*-=+|;:,<.>/?'".toList.contains c

-- The slash of a comment is no punctuation.
def startsPunct (s : List Char) : Bool :=
  match s with
  | c :: _ => isPunct c && !startsWith "//" s && !startsWith "/*" s
  | []     => false

-- Some words cannot be raw.
def neverRaw : List String :=
  ["_", "super", "self", "Self", "crate"]

-- A quote that starts a label or lifetime is joint with the name behind it.
def punct (s : List Char) : Option (Char × Bool × List Char) :=
  if !startsPunct s then none
  else
    match s with
    | '\'' :: cs =>
      let raw := startsWith "r#" cs
      match splitName (if raw then cs.drop 2 else cs) with
      | none => none
      | some (word, after) =>
        if raw && neverRaw.contains (String.ofList word) then none
        else if startsWith "'" after || (startsWith "#" after && !raw) then none
        else some ('\'', true, cs)
    | c :: cs => some (c, startsPunct cs, cs)
    | []      => none

def startsLiteral (s : List Char) : Bool :=
  ["r\"", "r#\"", "r##", "b\"", "b'", "br\"", "br#", "c\"", "cr\"", "cr#"].any (startsWith · s)

-- An identifier, the number of its characters, and what follows.
def ident (s : List Char) : Option (Ident × Nat × List Char) :=
  if startsLiteral s then none
  else
    let raw := startsWith "r#" s
    match h : splitName (if raw then s.drop 2 else s) with
    | none              => none
    | some (word, rest) =>
      let text := String.ofList word
      if raw && neverRaw.contains text then none
      else
        let i := ⟨text, raw, by simpa [text] using splitName.isWord h⟩
        some (i, word.length + (if raw then 2 else 0), rest)

def errorMark : String :=
  "(/*ERROR*/)"

-- A token at a position, the number of its characters, and what follows.
def leaf (pos : Nat) (s : List Char) : Option (Token × Nat × List Char) :=
  match literal s with
  | some rest =>
    let text := before s rest
    some (.literal (String.ofList text) pos, text.length, rest)
  | none =>
    match punct s with
    | some (c, joint, rest) => some (.punct c joint pos, 1, rest)
    | none =>
      match ident s with
      | some (i, n, rest) => some (.ident i pos, n, rest)
      | none              =>
        (literally errorMark s).map fun rest => (.literal errorMark pos, errorMark.length, rest)

-- A carriage return may only stand before a line feed.
def noBareReturn : List Char → Bool
  | '\r' :: '\n' :: cs => noBareReturn cs
  | '\r' :: _          => false
  | _ :: cs            => noBareReturn cs
  | []                 => true

-- The text of a comment, whether it documents what is around it, and the characters behind it.
def docComment (s : List Char) : Option (List Char × Bool × List Char) :=
  if startsWith "//!" s then some (line s, true, lineRest s)
  else if startsWith "/*!" s then (blockComment s).map fun rest => (block s rest, true, rest)
  else if startsWith "///" s then
    if startsWith "////" s then none else some (line s, false, lineRest s)
  else if startsWith "/**" s && !startsWith "/***" s then
    (blockComment s).map fun rest => (block s rest, false, rest)
  else none
where
  lineRest (s : List Char) : List Char :=
    lineEnd (s.drop 3)
  line (s : List Char) : List Char :=
    let text := before (s.drop 3) (lineRest s)
    if text.getLast? == some '\r' && (lineRest s).head? == some '\n' then text.dropLast else text
  block (s rest : List Char) : List Char :=
    (s.take (s.length - rest.length - 2)).drop 3

-- A documentation comment stands for an attribute.
def docTokens (text : List Char) (inner : Bool) (pos stop : Nat) : List Token :=
  let bang := if inner then [Token.punct '!' false pos] else []
  let body := [.ident (.plain "doc") pos, .punct '=' false pos, .literal (quote text) pos]
  .punct '#' false pos :: bang ++ [.group .bracket body pos (stop - 1)]

-- A group that is still open: its delimiter, its start, and the tokens before it, the last one first.
structure Frame where
  delimiter : Delimiter
  start     : Nat
  before    : List Token

def opener? : Char → Option Delimiter
  | '(' => some .parenthesis
  | '[' => some .bracket
  | '{' => some .brace
  | _   => none

def closer? : Char → Option Delimiter
  | ')' => some .parenthesis
  | ']' => some .bracket
  | '}' => some .brace
  | _   => none

-- `done` holds the tokens of the innermost open group, the last one first, and `pos` is where the text `s`
-- starts. Every round takes at least one character. An error is the position at which it occurs.
def go (done : List Token) (stack : List Frame) : Nat → Nat → List Char → Except Nat (List Token)
  | 0,     pos, _ => .error pos
  | n + 1, pos, s =>
    let (skipped, s) := leadingSpace s
    let pos := pos + skipped
    let doc := (docComment s).filter fun (text, _, _) => noBareReturn text
    match doc, s with
    | some (text, inner, rest), _ =>
      let stop := pos + (before s rest).length
      go ((docTokens text inner pos stop).reverse ++ done) stack n stop rest
    | none, [] =>
      match stack with
      | []     => .ok done.reverse
      | f :: _ => .error f.start
    | none, c :: cs =>
      match opener? c, closer? c with
      | some d, _ =>
        if startsWith errorMark s then
          match leaf pos s with
          | some (t, k, rest) => go (t :: done) stack n (pos + k) rest
          | none              => .error pos
        else go [] (⟨d, pos, done⟩ :: stack) n (pos + 1) cs
      | none, some d =>
        match stack with
        | f :: stack =>
          if f.delimiter = d then
            go (.group d done.reverse f.start pos :: f.before) stack n (pos + 1) cs
          else .error pos
        | [] => .error pos
      | none, none =>
        match leaf pos s with
        | some (t, k, rest) => go (t :: done) stack n (pos + k) rest
        | none              => .error pos

end Scan

-- A byte order mark in front of the first token is skipped.
def scan (s : List Char) : Except Nat (List Token) :=
  match s with
  | '\ufeff' :: cs => Scan.go [] [] (s.length + 1) 1 cs
  | _              => Scan.go [] [] (s.length + 1) 0 s

end EnvConfig.Source
