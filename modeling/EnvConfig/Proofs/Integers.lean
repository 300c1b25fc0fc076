import EnvConfig.Proofs.RoundTrip
import Mathlib.Tactic.Ring

-- An integer is read at the largest width of its kind and then narrowed. The texts that are read, and the
-- integers they stand for, are those of reading at the integer's own width, but for a plus where there is
-- nothing to tell it from.

namespace EnvConfig

namespace Decimal

-- Digits, at least one, with a sign in front of them if numbers may have one.
inductive Numeral (signed : Bool) : List Char → Int → Prop
  | plain {ds} : ds ≠ [] → (∀ c ∈ ds, c.isDigit) → Numeral signed ds (Nat.ofDigitChars 10 ds 0)
  | plus {ds}  : signed → ds ≠ [] → (∀ c ∈ ds, c.isDigit) →
    Numeral signed ('+' :: ds) (Nat.ofDigitChars 10 ds 0)
  | minus {ds} : signed → ds ≠ [] → (∀ c ∈ ds, c.isDigit) →
    Numeral signed ('-' :: ds) (-Nat.ofDigitChars 10 ds 0)

section Signs

variable {s ds : List Char} {n : Int}

theorem sign_cases (s : List Char) :
    (∃ ds, s = '-' :: ds) ∨ (∃ ds, s = '+' :: ds) ∨ s.head? ≠ some '-' ∧ s.head? ≠ some '+' := by
  cases s
  case nil => simp
  case cons c ds =>
    simp only [List.cons.injEq, List.head?_cons, ne_eq, Option.some.injEq]
    grind

theorem head?_of_isDigit (hd : ∀ c ∈ ds, c.isDigit) : ds.head? ≠ some '-' ∧ ds.head? ≠ some '+' := by
  cases ds
  case nil => simp
  case cons c ds =>
    have hc := hd c (.head _)
    constructor <;> rintro ⟨⟩ <;> cases hc

theorem integer?_minus : integer? ('-' :: ds) = (natural? ds).map fun n : Nat => -1 * (n : Int) := by
  cases h : natural? ds <;> simp [integer?, h]

theorem integer?_plus : integer? ('+' :: ds) = (natural? ds).map fun n : Nat => 1 * (n : Int) := by
  cases h : natural? ds <;> simp [integer?, h]

theorem integer?_plain (h : s.head? ≠ some '-' ∧ s.head? ≠ some '+') :
    integer? s = (natural? s).map fun n : Nat => 1 * (n : Int) := by
  unfold integer?
  split
  case h_1 => simp at h
  case h_2 => simp at h
  case h_3 => cases natural? s <;> simp

theorem natural?_eq_some {k : Nat} : natural? s = some k ↔
    (s ≠ [] ∧ ∀ c ∈ s, c.isDigit) ∧ Nat.ofDigitChars 10 s 0 = k := by
  have hg : (s.isEmpty || !s.all Char.isDigit) = false ↔ s ≠ [] ∧ ∀ c ∈ s, c.isDigit := by simp
  have hd : ofDigits s = Nat.ofDigitChars 10 s 0 := rfl
  rw [natural?, hd, ← hg]
  cases s.isEmpty || !s.all Char.isDigit <;> simp

theorem map_natural?_eq_some {sign : Int} : (natural? s).map (fun k : Nat => sign * (k : Int)) = some n ↔
    (s ≠ [] ∧ ∀ c ∈ s, c.isDigit) ∧ sign * Nat.ofDigitChars 10 s 0 = n := by
  simp only [Option.map_eq_some_iff, natural?_eq_some, and_assoc, exists_and_left, exists_eq_left']

theorem integer?_eq_some : integer? s = some n ↔ Numeral true s n := by
  constructor
  case mp =>
    intro h
    obtain ⟨ds, rfl⟩ | ⟨ds, rfl⟩ | hs := sign_cases s
    case inl =>
      obtain ⟨⟨hn, hd⟩, rfl⟩ := map_natural?_eq_some.mp (integer?_minus ▸ h)
      exact (Int.neg_one_mul _).symm ▸ .minus rfl hn hd
    case inr.inl =>
      obtain ⟨⟨hn, hd⟩, rfl⟩ := map_natural?_eq_some.mp (integer?_plus ▸ h)
      exact (Int.one_mul _).symm ▸ .plus rfl hn hd
    case inr.inr =>
      obtain ⟨⟨hn, hd⟩, rfl⟩ := map_natural?_eq_some.mp (integer?_plain hs ▸ h)
      exact (Int.one_mul _).symm ▸ .plain hn hd
  case mpr =>
    intro h
    cases h
    case plain hn hd =>
      exact integer?_plain (head?_of_isDigit hd) ▸ map_natural?_eq_some.mpr ⟨⟨hn, hd⟩, Int.one_mul _⟩
    case plus _ hn hd => exact integer?_plus ▸ map_natural?_eq_some.mpr ⟨⟨hn, hd⟩, Int.one_mul _⟩
    case minus _ hn hd => exact integer?_minus ▸ map_natural?_eq_some.mpr ⟨⟨hn, hd⟩, Int.neg_one_mul _⟩

theorem numeral_false_iff :
    Numeral false s n ↔ Numeral true s n ∧ s.head? ≠ some '-' ∧ s.head? ≠ some '+' := by
  constructor
  case mp =>
    intro h
    cases h
    case plain hn hd => exact ⟨.plain hn hd, head?_of_isDigit hd⟩
    case plus hf _ _ => cases hf
    case minus hf _ _ => cases hf
  case mpr =>
    rintro ⟨h, hm, hp⟩
    cases h
    case plain hn hd => exact .plain hn hd
    case plus => simp at hp
    case minus => simp at hm

end Signs

end Decimal

namespace IntRange

open Decimal

variable {r : IntRange} {sign : Int}

-- A range that a number is read in has room for zero.
structure HasZero (r : IntRange) : Prop where
  low  : r.low ≤ 0
  high : 0 ≤ r.high

theorem contains_iff {n : Int} : r.contains n ↔ r.low ≤ n ∧ n ≤ r.high := by
  simp [contains]

-- What is in range stays in range on the way back to zero.
theorem HasZero.contains_of_le (z : r.HasZero) (hs : sign = 1 ∨ sign = -1) {k l : Nat} (hk : k ≤ l)
    (h : r.contains (sign * l)) : r.contains (sign * k) := by
  have hl := z.low
  have hh := z.high
  obtain rfl | rfl := hs <;> simp only [contains_iff] at h ⊢ <;> omega

theorem le_ofDigitChars (ds : List Char) (k : Nat) : k ≤ Nat.ofDigitChars 10 ds k := by
  rw [Nat.ofDigitChars_eq_ofDigitChars_zero]
  exact Nat.le_add_right_of_le (Nat.le_mul_of_pos_left _ (Nat.pow_pos (by decide)))

theorem check_eq {n : Int} (h : r.contains n) : r.check n = some n :=
  if_pos h

theorem check_eq_none {n : Int} (h : ¬r.contains n) : r.check n = none :=
  if_neg h

theorem check_bind {n : Int} {α : Type} (f : Int → Option α) :
    (r.check n).bind f = (r.check n).bind fun _ => f n := by
  unfold check
  split <;> rfl

theorem accumulate_digit {c : Char} (hc : c.isDigit) (ds : List Char) (k : Nat) :
    r.accumulate sign (sign * k) (c :: ds) = (r.check (sign * (10 * k : Nat))).bind fun _ =>
      (r.check (sign * (10 * k + digit c : Nat))).bind fun _ =>
        r.accumulate sign (sign * (10 * k + digit c : Nat)) ds := by
  have hs : 10 * (sign * (k : Int)) = sign * (10 * k : Nat) := by push_cast; ring
  have hd : sign * (10 * k : Nat) + sign * (digit c : Int) = sign * (10 * k + digit c : Nat) := by
    push_cast
    ring
  simp only [accumulate, hc, if_true, hs, Option.bind_eq_bind]
  rw [check_bind, hd]
  congr 1
  funext
  rw [check_bind]

-- A check at every digit is as good as one at the end, since a number only moves away from zero.
theorem accumulate_eq (z : r.HasZero) (hs : sign = 1 ∨ sign = -1) {ds : List Char} {k : Nat}
    (hk : r.contains (sign * k)) : r.accumulate sign (sign * k) ds =
      if ds.all Char.isDigit then r.check (sign * Nat.ofDigitChars 10 ds k) else none := by
  induction ds generalizing k
  case nil => simp [accumulate, check_eq hk]
  case cons c ds hi =>
    by_cases hc : c.isDigit
    case neg => simp [accumulate, hc]
    case pos =>
      let m := 10 * k + digit c
      have ho : Nat.ofDigitChars 10 (c :: ds) k = Nat.ofDigitChars 10 ds m := Nat.ofDigitChars_cons
      have ha : (c :: ds).all Char.isDigit = ds.all Char.isDigit := by simp [hc]
      simp only [accumulate_digit hc, ho, ha]
      by_cases hm : r.contains (sign * m)
      case pos =>
        have hk := z.contains_of_le hs (Nat.le_add_right (10 * k) (digit c)) hm
        rw [check_eq hk, check_eq hm, Option.bind_some, Option.bind_some, hi hm]
      case neg =>
        have hl : ¬r.contains (sign * Nat.ofDigitChars 10 ds m) := fun h =>
          hm (z.contains_of_le hs (le_ofDigitChars ds m) h)
        rw [check_eq_none hm, check_eq_none hl]
        simp

theorem readUnsigned_eq (z : r.HasZero) (hs : sign = 1 ∨ sign = -1) (ds : List Char) :
    r.readUnsigned sign ds = ((natural? ds).map fun k : Nat => sign * (k : Int)).filter r.contains := by
  have hz : r.contains (sign * (0 : Nat)) := by simpa [contains_iff] using And.intro z.low z.high
  have ha : r.accumulate sign 0 ds =
      if ds.all Char.isDigit then r.check (sign * Nat.ofDigitChars 10 ds 0) else none := by
    simpa only [Int.natCast_zero, Int.mul_zero] using accumulate_eq z hs hz
  rw [readUnsigned, ha]
  by_cases hd : ds ≠ [] ∧ ∀ c ∈ ds, c.isDigit
  case pos =>
    rw [map_natural?_eq_some.mpr ⟨hd, rfl⟩]
    simp [hd.left, if_pos hd.right, check, Option.filter]
  case neg =>
    have hn : (natural? ds).map (fun k : Nat => sign * (k : Int)) = none :=
      Option.eq_none_iff_forall_ne_some.mpr fun n h => hd (map_natural?_eq_some.mp h).left
    rw [hn]
    by_cases he : ds = []
    case pos => simp [he]
    case neg => simp [he, not_and.mp hd he]

theorem read_eq (z : r.HasZero) (s : List Char) :
    r.read s = if s.head? = some '-' ∧ ¬r.low < 0 then none else (integer? s).filter r.contains := by
  obtain ⟨ds, rfl⟩ | ⟨ds, rfl⟩ | hs := sign_cases s
  case inl =>
    rw [read, integer?_minus, readUnsigned_eq z (.inr rfl)]
    by_cases hl : r.low < 0 <;> simp [hl]
  case inr.inl =>
    rw [read, integer?_plus, readUnsigned_eq z (.inl rfl)]
    simp
  case inr.inr =>
    rw [integer?_plain hs, ← readUnsigned_eq z (.inl rfl), if_neg fun h => hs.left h.left]
    unfold read
    split
    case h_1 => simp at hs
    case h_2 => simp at hs
    case h_3 => rfl

end IntRange

namespace Primitive

variable {p : Primitive} {r : IntRange}

theorem holds_eq (h : p.range? = some r) : p.holds = r.contains := by
  funext n
  simp [holds, h]

theorem hasZero (h : p.range? = some r) : r.HasZero := by
  cases p <;> cases h <;> exact ⟨by decide, by decide⟩

theorem low_lt_zero_iff (h : p.range? = some r) : r.low < 0 ↔ p.isSigned := by
  cases p <;> cases h <;> decide

theorem wide_range? (h : p.range? = some r) : p.parsing.parse.wide.range? = some p.widestRange := by
  cases p <;> cases h <;> rfl

theorem wide_eq (h : p.range? = some r) (hn : p.parsing.narrow = none) : p.parsing.parse.wide = p := by
  cases p <;> cases h <;> cases hn <;> rfl

theorem parse_eq (h : p.range? = some r) :
    (p.isSigned ∧ (p.parsing.parse = .word ∨ p.parsing.parse = .signed)) ∨
      ¬p.isSigned ∧ p.parsing.parse = .unsigned := by
  cases p <;> cases h <;> decide

-- Narrowing lets through what fits, and all of that has been read.
theorem narrow_filter (h : p.range? = some r) (x : Option Int) :
    (x.filter p.widestRange.contains).bind r.check = x.filter r.contains := by
  rw [← holds_eq h, ← holds_eq (wide_range? h)]
  cases x
  case none => rfl
  case some n =>
    by_cases hn : p.holds n
    case pos => simp [Option.filter, IntRange.check, ← holds_eq h, hn, Value.holds_wide hn]
    case neg =>
      by_cases hw : p.parsing.parse.wide.holds n <;> simp [Option.filter, IntRange.check, ← holds_eq h, hn, hw]

theorem integer?_eq (h : p.range? = some r) (s : List Char) :
    Value.integer? p.parsing.parse.wide p.parsing.narrow s = (Decimal.integer? s).filter r.contains := by
  rw [Value.integer?, holds_eq (wide_range? h)]
  cases hn : p.parsing.narrow
  case none =>
    have hr : r = p.widestRange := by
      have hw := wide_range? h
      rw [wide_eq h hn, h] at hw
      exact Option.some.inj hw
    simp [hr]
  case some q =>
    obtain rfl := Value.narrow_eq hn
    simp only [holds_eq h]
    exact narrow_filter h _

theorem parsing_read (h : p.range? = some r) (s : List Char) : p.parsing.read s =
    if ¬p.isSigned ∧ (s.head? = some '-' ∨ s.head? = some '+') then none
    else ((Decimal.integer? s).filter r.contains).map .int := by
  rw [← integer?_eq h]
  obtain ⟨hs, hp | hp⟩ | ⟨hs, hp⟩ := parse_eq h
  case inl.inl => simp [Parsing.read, hp, hs]
  case inl.inr => simp [Parsing.read, hp, hs]
  case inr => simp [Parsing.read, hp, hs, or_comm]

-- Reading at the larger width first makes no difference.
theorem narrow_read (h : p.range? = some r) (s : List Char) : (p.widestRange.read s).bind r.check = r.read s := by
  have hl : p.widestRange.low < 0 ↔ r.low < 0 := by
    rw [low_lt_zero_iff h]
    cases p <;> cases h <;> decide
  simp only [IntRange.read_eq (hasZero (wide_range? h)), IntRange.read_eq (hasZero h), hl]
  split
  case isTrue => rfl
  case isFalse => exact narrow_filter h _

theorem filter_eq_some_iff {s : List Char} {n : Int} : (Decimal.integer? s).filter r.contains = some n ↔
    Decimal.Numeral true s n ∧ r.low ≤ n ∧ n ≤ r.high := by
  rw [Option.filter_eq_some_iff, Decimal.integer?_eq_some, IntRange.contains_iff]

theorem read_integer (h : p.range? = some r) (s : List Char) :
    (∀ v, p.parsing.read s = some v ↔
      ∃ n, v = .int n ∧ Decimal.Numeral p.isSigned s n ∧ r.low ≤ n ∧ n ≤ r.high) ∧
    p.parsing.read s = (if ¬p.isSigned ∧ s.head? = some '+' then none
      else (p.widestRange.read s).bind r.check).map .int ∧
    (p.widestRange.read s).bind r.check = r.read s := by
  refine ⟨fun v => ?_, ?_, narrow_read h s⟩
  case refine_1 =>
    rw [parsing_read h]
    cases p.isSigned
    case false =>
      simp only [Decimal.numeral_false_iff, Option.ite_none_left_eq_some, Option.map_eq_some_iff,
        filter_eq_some_iff]
      grind
    case true =>
      simp only [Option.ite_none_left_eq_some, Option.map_eq_some_iff, filter_eq_some_iff]
      grind
  case refine_2 =>
    simp only [narrow_read h, parsing_read h, IntRange.read_eq (hasZero h), low_lt_zero_iff h]
    cases p.isSigned
    case false =>
      by_cases hm : s.head? = some '-' <;> by_cases hp : s.head? = some '+' <;> simp [hm, hp]
    case true => simp

theorem read_integer_byte : Primitive.i8.range? = some (.signed 8) ∧
    Primitive.i8.parsing.read "-000128".toList = some (.int (-128)) :=
  ⟨rfl, ((read_integer rfl _).left _).mpr
    ⟨-128, rfl, .minus rfl (by decide) (List.all_eq_true.mp (by decide)), by decide, by decide⟩⟩

end Primitive
end EnvConfig
