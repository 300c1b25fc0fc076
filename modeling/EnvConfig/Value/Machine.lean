import EnvConfig.Value.Duration
import Mathlib.Data.List.Basic

-- Durations as a machine reads them: texts are cut behind a number of octets, and the arithmetic is that of
-- words.

namespace EnvConfig.Duration

-- What must not happen: a number that its word cannot hold, or a text that is cut within a character or
-- behind its end.
inductive Fault where
  | overflow
  | underflow
  | divisionByZero
  | noBoundary
  deriving DecidableEq, Repr

-- How a computation ends. A text that is no duration is refused, which is no fault.
inductive Outcome (α : Type) where
  | value (a : α)
  | refused
  | fault (f : Fault)
  deriving DecidableEq, Repr

namespace Outcome

variable {α β : Type}

def bind : Outcome α → (α → Outcome β) → Outcome β
  | value a, f => f a
  | refused, _ => refused
  | fault e, _ => fault e

instance : Monad Outcome where
  pure := value
  bind := bind

def ofOption : Option α → Outcome α
  | some a => value a
  | none   => refused

@[simp]
theorem pure_eq (a : α) : (pure a : Outcome α) = value a :=
  rfl

@[simp]
theorem map_value (f : α → β) (a : α) : f <$> value a = value (f a) :=
  rfl

@[simp]
theorem value_bind (a : α) (f : α → Outcome β) : (value a >>= f) = f a :=
  rfl

@[simp]
theorem refused_bind (f : α → Outcome β) : (refused >>= f) = refused :=
  rfl

@[simp]
theorem fault_bind (e : Fault) (f : α → Outcome β) : (fault e >>= f) = fault e :=
  rfl

@[simp]
theorem ofOption_some (a : α) : ofOption (some a) = value a :=
  rfl

@[simp]
theorem ofOption_none : ofOption (none : Option α) = refused :=
  rfl

@[simp]
theorem ofOption_bind (x : Option α) (f : α → Option β) :
    ofOption (x.bind f) = (ofOption x >>= fun a => ofOption (f a)) := by
  cases x <;> rfl

@[simp]
theorem ofOption_ne_fault (x : Option α) (f : Fault) : ofOption x ≠ fault f := by
  cases x <;> simp

theorem ofOption_eq_value {x : Option α} {a : α} : ofOption x = value a ↔ x = some a := by
  cases x <;> simp

theorem bind_eq_value {x : Outcome α} {f : α → Outcome β} {b : β} :
    (x >>= f) = value b ↔ ∃ a, x = value a ∧ f a = value b := by
  cases x <;> simp

end Outcome

namespace Word

-- Arithmetic whose result is not checked.
def add (a b : Nat) : Outcome Nat :=
  if a + b < wordLimit then .value (a + b) else .fault .overflow

def mul (a b : Nat) : Outcome Nat :=
  if a * b < wordLimit then .value (a * b) else .fault .overflow

def div (a b : Nat) : Outcome Nat :=
  if b = 0 then .fault .divisionByZero else .value (a / b)

-- The number between two octets.
def distance (a b : UInt8) : Outcome Nat :=
  if b ≤ a then .value (a - b).toNat else .fault .underflow

-- Arithmetic whose result is checked.
def checkedAdd (a b : Nat) : Outcome Nat :=
  .ofOption (checked (a + b))

def checkedMul (a b : Nat) : Outcome Nat :=
  .ofOption (checked (a * b))

end Word

namespace Octets

def encode (s : List Char) : List UInt8 :=
  s.flatMap String.utf8EncodeChar

-- The number of octets in front of the first character of a kind, or of all if there is none.
def position (p : Char → Bool) : List Char → Nat
  | []     => 0
  | c :: s => if p c then 0 else c.utf8Size + position p s

-- The parts of a text in front of and behind a number of octets.
def splitAt : Nat → List Char → Outcome (List Char × List Char)
  | 0,     s      => .value ([], s)
  | _ + 1, []     => .fault .noBoundary
  | n + 1, c :: s =>
    if c.utf8Size ≤ n + 1 then do
      let (front, back) ← splitAt (n + 1 - c.utf8Size) s
      return (c :: front, back)
    else .fault .noBoundary

def nonDigit (c : Char) : Bool :=
  !c.isDigit

@[simp]
theorem encode_nil : encode [] = [] :=
  rfl

@[simp]
theorem encode_cons (c : Char) (s : List Char) : encode (c :: s) = String.utf8EncodeChar c ++ encode s :=
  rfl

theorem encode_append (a b : List Char) : encode (a ++ b) = encode a ++ encode b :=
  List.flatMap_append

theorem encode_ne_nil {s : List Char} (h : s ≠ []) : 0 < (encode s).length := by
  obtain ⟨c, s, rfl⟩ := List.exists_cons_of_ne_nil h
  have hc := c.utf8Size_pos
  simp [String.length_utf8EncodeChar]
  omega

theorem splitAt_zero (s : List Char) : splitAt 0 s = .value ([], s) := by
  cases s <;> rfl

-- A text can be cut at the boundaries of its characters, and nowhere else.
theorem splitAt_eq_value {n : Nat} {s a b : List Char} :
    splitAt n s = .value (a, b) ↔ s = a ++ b ∧ (encode a).length = n := by
  constructor
  case mp =>
    intro h
    induction s generalizing n a
    case nil => cases n <;> cases h; exact ⟨rfl, rfl⟩
    case cons c s hi =>
      cases n
      case zero => cases h; exact ⟨rfl, rfl⟩
      case succ n =>
        simp only [splitAt] at h
        split at h
        case isTrue hc =>
          cases hs : splitAt (n + 1 - c.utf8Size) s <;> rw [hs] at h <;> cases h
          case refl p =>
            obtain ⟨rfl, hl⟩ := hi hs
            refine ⟨rfl, ?_⟩
            simp [String.length_utf8EncodeChar, hl]
            omega
        case isFalse => cases h
  case mpr =>
    rintro ⟨rfl, rfl⟩
    induction a
    case nil => exact splitAt_zero b
    case cons c a hi =>
      obtain ⟨k, hk⟩ : ∃ k, c.utf8Size = k + 1 := Nat.exists_eq_add_one.mpr c.utf8Size_pos
      have hl : (encode (c :: a)).length = k + (encode a).length + 1 := by
        simp [String.length_utf8EncodeChar, hk]
        omega
      have hc : k + 1 ≤ k + (encode a).length + 1 := by omega
      have hr : k + (encode a).length + 1 - (k + 1) = (encode a).length := by omega
      rw [hl, List.cons_append, splitAt, hk, if_pos hc, hr, hi]
      rfl

example : splitAt 1 "µs".toList = .fault .noBoundary := by decide

end Octets

namespace Machine

open Octets

-- The digits behind a point, if there is one, and what stands behind them.
def decimals : List Char → Outcome (List Char × List Char)
  | '.' :: s => splitAt (position nonDigit s) s
  | s        => .value ([], s)

-- The first component of a text, and what stands behind it.
def component (s : List Char) : Outcome (Component × List Char) := do
  let (whole, tail) ← splitAt (position nonDigit s) s
  let (fraction, tail) ← decimals tail
  if whole.isEmpty && fraction.isEmpty then .refused else
    let (unit, tail) ← splitAt (position Component.isUnitEnd tail) tail
    return (⟨whole, fraction, unit⟩, tail)

-- Numerator and denominator with the digits of a fraction, until the denominator is large enough.
def readFraction : List UInt8 → Nat × Nat → Outcome (Nat × Nat)
  | [],      fraction   => .value fraction
  | b :: bs, (num, den) =>
    if den ≥ 1_000_000_000_000_000_000 then .value (num, den) else do
      let shifted ← Word.mul num 10
      let digit ← Word.distance b 48
      let num ← Word.add shifted digit
      let den ← Word.mul den 10
      readFraction bs (num, den)

-- What the digits of a fraction add to whole units.
def fractionOf (scale : Nat) (digits : List Char) : Outcome Nat := do
  let (num, den) ← readFraction (encode digits) (0, 1)
  Word.div (← Word.mul num scale) den

-- The sum with one more component.
def addTo (c : Component) (total : Nat) : Outcome Nat := do
  let scale ← .ofOption (unit? c.unit)
  let total ← if c.whole.isEmpty then .value total else do
    let whole ← .ofOption (checked (Decimal.ofDigits c.whole))
    Word.checkedAdd total (← Word.checkedMul whole scale)
  Word.checkedAdd total (← fractionOf scale c.fraction)

-- One round: what is still unread, and the sum so far.
def step (s : List Char) (total : Nat) : Outcome (List Char × Nat) := do
  let (c, rest) ← component s
  return (rest, ← addTo c total)

theorem exists_of_decimals {s fraction tail : List Char} (h : decimals s = .value (fraction, tail)) :
    ∃ point, s = point ++ (fraction ++ tail) := by
  unfold decimals at h
  split at h
  case h_1 s => exact ⟨['.'], congrArg ('.' :: ·) (splitAt_eq_value.mp h).left⟩
  case h_2 s =>
    cases h
    exact ⟨[], rfl⟩

-- What has been cut off is not empty, as it has at least one digit.
theorem exists_of_component {s rest : List Char} {c : Component} (h : component s = .value (c, rest)) :
    ∃ front, front ≠ [] ∧ s = front ++ rest := by
  simp only [component, Outcome.bind_eq_value] at h
  obtain ⟨⟨whole, tail⟩, hw, ⟨fraction, tail⟩, hf, h⟩ := h
  obtain ⟨rfl, -⟩ := splitAt_eq_value.mp hw
  obtain ⟨point, rfl⟩ := exists_of_decimals hf
  split at h
  case isTrue => cases h
  case isFalse hn =>
    obtain ⟨⟨unit, tail⟩, hu, h⟩ := Outcome.bind_eq_value.mp h
    obtain ⟨rfl, -⟩ := splitAt_eq_value.mp hu
    cases h
    refine ⟨whole ++ (point ++ (fraction ++ unit)), fun he => hn ?_, by simp⟩
    simp only [List.append_eq_nil_iff] at he
    simp [he]

theorem step_shortens {s rest : List Char} {total total' : Nat} (h : step s total = .value (rest, total')) :
    (encode rest).length < (encode s).length := by
  obtain ⟨⟨c, _⟩, hc, h⟩ := Outcome.bind_eq_value.mp h
  obtain ⟨_, -, h⟩ := Outcome.bind_eq_value.mp h
  cases h
  obtain ⟨front, hf, rfl⟩ := exists_of_component hc
  have hl := encode_ne_nil hf
  rw [encode_append, List.length_append]
  omega

-- The rounds, as long as there is something to read.
def loop (s : List Char) (total : Nat) : Outcome Nat :=
  if s = [] then .value total
  else match _h : step s total with
    | .value (rest, total) => loop rest total
    | .refused             => .refused
    | .fault f             => .fault f
termination_by (encode s).length
decreasing_by exact step_shortens _h

def run (s : List Char) : Outcome Nat :=
  let rest := withoutSign s
  if rest = ['0'] then .value 0
  else if rest.isEmpty then .refused
  else do
    let total ← loop rest 0
    if s.head? = some '-' && total ≠ 0 then .refused
    else if total < resultLimit then .value total
    else .refused

end Machine
end EnvConfig.Duration
