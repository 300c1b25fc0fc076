-- From octets to characters. Octets that belong to no character are replaced.

namespace EnvConfig.Text

def replacement : Char :=
  '\ufffd'

namespace Utf8

-- The beginning of a character of several octets: the value so far, how many octets are missing, and the
-- bounds of the next one.
structure Partial where
  value   : Nat
  missing : Nat
  low     : Nat
  high    : Nat
  deriving DecidableEq, Repr

-- What an octet means at the start of a character.
inductive First where
  | char (c : Char)
  | part (p : Partial)
  | refused
  deriving DecidableEq, Repr

-- The bounds of the second octet keep out values that fewer octets can hold, surrogates, and values beyond
-- the last character.
def first (b : Nat) : First :=
  if b < 0x80 then .char (Char.ofNat b)
  else if b < 0xC2 then .refused
  else if b < 0xE0 then .part ⟨b - 0xC0, 1, 0x80, 0xBF⟩
  else if b = 0xE0 then .part ⟨0, 2, 0xA0, 0xBF⟩
  else if b = 0xED then .part ⟨0xD, 2, 0x80, 0x9F⟩
  else if b < 0xF0 then .part ⟨b - 0xE0, 2, 0x80, 0xBF⟩
  else if b = 0xF0 then .part ⟨0, 3, 0x90, 0xBF⟩
  else if b < 0xF4 then .part ⟨b - 0xF0, 3, 0x80, 0xBF⟩
  else if b = 0xF4 then .part ⟨4, 3, 0x80, 0x8F⟩
  else .refused

-- A further octet of a character, if it may follow.
def Partial.next (p : Partial) (b : Nat) : First :=
  if p.low ≤ b && b ≤ p.high then
    let value := 64 * p.value + b % 64
    if p.missing = 1 then .char (Char.ofNat value)
    else .part ⟨value, p.missing - 1, 0x80, 0xBF⟩
  else .refused

-- A piece that the octets have been split into: a character, or octets that are replaced by one mark.
inductive Piece where
  | char (c : Char)
  | broken
  deriving DecidableEq, Repr

def Piece.toChar : Piece → Char
  | char c => c
  | broken => replacement

-- An octet that cannot follow ends a broken character and is read again as the start of another.
def pieces : Option Partial → List UInt8 → List Piece
  | none,   []      => []
  | some _, []      => [.broken]
  | none,   b :: bs => fromStart b bs
  | some p, b :: bs =>
    match p.next b.toNat with
    | .char c  => .char c :: pieces none bs
    | .part q  => pieces (some q) bs
    | .refused =>
      match first b.toNat with
      | .char c  => .broken :: .char c :: pieces none bs
      | .part q  => .broken :: pieces (some q) bs
      | .refused => .broken :: .broken :: pieces none bs
where
  fromStart (b : UInt8) (bs : List UInt8) : List Piece :=
    match first b.toNat with
    | .char c  => .char c :: pieces none bs
    | .part q  => pieces (some q) bs
    | .refused => .broken :: pieces none bs

-- The characters, with a mark for each broken one.
def decodeLossy (bs : List UInt8) : List Char :=
  (pieces none bs).map Piece.toChar

-- The characters, if there is no broken one.
def decode? (bs : List UInt8) : Option (List Char) :=
  (pieces none bs).mapM fun
    | .char c => some c
    | .broken => none

end Utf8
end EnvConfig.Text
