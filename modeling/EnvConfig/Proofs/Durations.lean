import EnvConfig.Value.Duration
import Mathlib.Algebra.Ring.Nat
import Mathlib.Tactic.Common

-- The texts that stand for durations: a zero, or terms of a number and a unit each. The nanoseconds that are
-- read are those of the terms, and all texts are read for which they can be kept.

namespace EnvConfig.Duration

-- The units as they are written, each with its nanoseconds. A micro sign and a Greek mu look the same.
def units : List (String × Nat) := [
  ("ns", 1), ("us", 1_000), ("\u00b5s", 1_000), ("\u03bcs", 1_000), ("ms", 1_000_000),
  ("s", 1_000_000_000), ("m", 60 * 1_000_000_000), ("h", 3_600 * 1_000_000_000)]

-- A number with its unit: digits, and digits behind a point if there is one, but not without any digit.
structure Term where
  whole            : List Char
  decimals?        : Option (List Char)
  unit             : String
  scale            : Nat
  whole_isDigit    : ∀ c ∈ whole, c.isDigit
  decimals_isDigit : ∀ ds ∈ decimals?, ∀ c ∈ ds, c.isDigit
  digits_ne_nil    : whole ++ decimals?.getD [] ≠ []
  unit_mem         : (unit, scale) ∈ units

namespace Term

def decimals (t : Term) : List Char :=
  t.decimals?.getD []

def text (t : Term) : List Char :=
  t.whole ++ t.decimals?.elim [] ('.' :: ·) ++ t.unit.toList

-- The decimals that count.
def counted (t : Term) : List Char :=
  t.decimals.take 18

-- Less than a nanosecond does not count either.
def nanos (t : Term) : Nat :=
  Nat.ofDigitChars 10 t.whole 0 * t.scale +
    Nat.ofDigitChars 10 t.counted 0 * t.scale / 10 ^ t.counted.length

end Term

-- What a text without a sign stands for, however long that is.
inductive Spells : List Char → Nat → Prop
  | zero : Spells ['0'] 0
  | terms {ts} : ts ≠ [] → Spells (ts.flatMap Term.text) (ts.map Term.nanos).sum

theorem unit?_eq_some {s : List Char} {scale : Nat} :
    unit? s = some scale ↔ (String.ofList s, scale) ∈ units := by
  unfold unit?
  generalize String.ofList s = text
  split <;> simp_all [units, eq_comm]

-- No unit can be taken for a part of a number.
theorem not_isUnitEnd {unit : String} {scale : Nat} (h : (unit, scale) ∈ units) :
    unit.toList ≠ [] ∧ ∀ c ∈ unit.toList, !Component.isUnitEnd c := by
  have hu : units.all fun u => u.1.toList ≠ [] && u.1.toList.all (!Component.isUnitEnd ·) := by decide
  simpa using List.all_eq_true.mp hu _ h

theorem scale_pos {unit : String} {scale : Nat} (h : (unit, scale) ∈ units) : 0 < scale := by
  have hs : ∀ u ∈ units, 0 < u.2 := by decide
  exact hs _ h

theorem scale_le {unit : String} {scale : Nat} (h : (unit, scale) ∈ units) : scale ≤ 10 ^ 18 := by
  have hs : ∀ u ∈ units, u.2 ≤ 10 ^ 18 := by decide
  exact hs _ h

theorem digit_le {c : Char} (h : c.isDigit) : Decimal.digit c ≤ 9 :=
  Nat.sub_le_sub_right (Char.isDigit_iff_toNat.mp h).right '0'.toNat

-- Each digit that counts adds a place, up to the eighteenth.
theorem foldl_addDigit {ds : List Char} {num k : Nat} (h : k ≤ 18) :
    ds.foldl addDigit (num, 10 ^ k) =
      (Nat.ofDigitChars 10 (ds.take (18 - k)) num, 10 ^ (k + (ds.take (18 - k)).length)) := by
  induction ds generalizing num k
  case nil => simp
  case cons c ds hi =>
    rw [List.foldl_cons, addDigit]
    by_cases hk : k = 18
    case pos =>
      subst hk
      have hp : 10 ^ 18 ≥ Nat.pow 10 18 := Nat.le_refl _
      rw [if_pos hp]
      exact hi (Nat.le_refl 18)
    case neg =>
      have hlt : k < 18 := Nat.lt_of_le_of_ne h hk
      have hd : ¬(10 ^ k ≥ Nat.pow 10 18) := Nat.not_le.mpr (Nat.pow_lt_pow_right (by decide) hlt)
      have ht : 18 - k = (18 - (k + 1)) + 1 := by omega
      simp only [if_neg hd, ← Nat.pow_succ', hi hlt, ht, List.take_succ_cons, Nat.ofDigitChars_cons,
        List.length_cons, Nat.add_right_comm k, ← Nat.add_assoc]
      rfl

theorem fraction_eq (ds : List Char) : fraction ds =
    (Nat.ofDigitChars 10 (ds.take 18) 0, 10 ^ (ds.take 18).length) := by
  have h : ds.foldl addDigit (0, 10 ^ 0) = _ := foldl_addDigit (Nat.zero_le 18)
  simpa [fraction] using h

theorem checked_eq_some {n m : Nat} : checked n = some m ↔ n < wordLimit ∧ n = m := by
  simp [checked]

section Runs

variable {p : Char → Bool} {a b : List Char}

-- Characters of one kind reach as far as no other one follows.
theorem takeWhile_append (ha : ∀ c ∈ a, p c) (hb : ∀ c ∈ b.head?, !p c) : (a ++ b).takeWhile p = a := by
  rw [List.takeWhile_append_of_pos ha]
  cases b <;> simp_all

theorem dropWhile_append (ha : ∀ c ∈ a, p c) (hb : ∀ c ∈ b.head?, !p c) : (a ++ b).dropWhile p = b := by
  rw [List.dropWhile_append_of_pos ha]
  cases b <;> simp_all

end Runs

-- The digits of a number reach up to its point or up to its unit.
theorem split?_append {whole tail : List Char} {decimals? : Option (List Char)} (hw : ∀ c ∈ whole, c.isDigit)
    (hd : ∀ ds ∈ decimals?, ∀ c ∈ ds, c.isDigit) (hn : whole ++ decimals?.getD [] ≠ [])
    (ht : ∀ c ∈ tail.head?, !Component.isUnitEnd c) :
    Component.split? (whole ++ (decimals?.elim [] ('.' :: ·) ++ tail)) =
      some (⟨whole, decimals?.getD [], tail.takeWhile (!Component.isUnitEnd ·)⟩,
        tail.dropWhile (!Component.isUnitEnd ·)) := by
  have ht : ∀ c ∈ tail.head?, c ≠ '.' ∧ !c.isDigit := by simpa [Component.isUnitEnd] using ht
  have hb : ∀ c ∈ (decimals?.elim [] ('.' :: ·) ++ tail).head?, !c.isDigit := by
    cases decimals?
    case none => exact fun c hc => (ht c hc).right
    case some => simp
  simp only [Component.split?, takeWhile_append hw hb, dropWhile_append hw hb]
  cases decimals?
  case none =>
    have hw : whole ≠ [] := by simpa using hn
    dsimp only [Option.elim, List.nil_append]
    split
    case h_1 => simp at ht
    case h_2 => simp [hw]
  case some ds =>
    have hr : ∀ c ∈ tail.head?, !c.isDigit := fun c hc => (ht c hc).right
    have hn : ¬(whole = [] ∧ ds = []) := by simpa using hn
    simp [takeWhile_append (hd ds rfl) hr, dropWhile_append (hd ds rfl) hr, hn]

theorem exists_decimals_of_split? {s rest : List Char} {c : Component}
    (h : Component.split? s = some (c, rest)) :
    ∃ decimals? : Option (List Char), (∀ d ∈ c.whole, d.isDigit) ∧ (∀ ds ∈ decimals?, ∀ d ∈ ds, d.isDigit) ∧
      c.whole ++ decimals?.getD [] ≠ [] ∧ c.fraction = decimals?.getD [] ∧
      s = c.whole ++ (decimals?.elim [] ('.' :: ·) ++ (c.unit ++ rest)) := by
  have digits (s : List Char) : ∀ d ∈ s.takeWhile Char.isDigit, d.isDigit :=
    List.all_eq_true.mp List.all_takeWhile
  have hs := (List.takeWhile_append_dropWhile (p := Char.isDigit) (l := s)).symm
  simp only [Component.split?] at h
  split at h
  case h_1 behind hb =>
    simp only [Option.ite_none_left_eq_some, Option.some.injEq, Prod.mk.injEq] at h
    obtain ⟨hn, rfl, rfl⟩ := h
    refine ⟨some (behind.takeWhile Char.isDigit), digits s, by simpa using digits behind, ?_, rfl, ?_⟩
    case refine_1 => simpa using hn
    rw [hb] at hs
    simpa [List.takeWhile_append_dropWhile] using hs
  case h_2 =>
    simp only [Option.ite_none_left_eq_some, Option.some.injEq, Prod.mk.injEq] at h
    obtain ⟨hn, rfl, rfl⟩ := h
    refine ⟨none, digits s, by simp, by simpa using hn, rfl, ?_⟩
    simp [List.takeWhile_append_dropWhile]

namespace Term

variable {t : Term}

def component (t : Term) : Component where
  whole    := t.whole
  fraction := t.decimals
  unit     := t.unit.toList

-- A term starts with a digit or a point.
theorem head?_text : ∃ c, t.text.head? = some c ∧ Component.isUnitEnd c := by
  have hn := t.digits_ne_nil
  have hd := t.whole_isDigit
  cases hw : t.whole
  case cons c cs => exact ⟨c, by simp [text, hw], by simp [Component.isUnitEnd, hd c (by simp [hw])]⟩
  case nil =>
    cases hds : t.decimals?
    case none => simp [hw, hds] at hn
    case some ds => exact ⟨'.', by simp [text, hw, hds], rfl⟩

-- It has at least one digit, and a unit.
theorem two_le_length_text : 2 ≤ t.text.length := by
  have hu := List.length_pos_iff.mpr (not_isUnitEnd t.unit_mem).left
  have hd := List.length_pos_iff.mpr t.digits_ne_nil
  cases hds : t.decimals? <;> simp [hds, text] at hd ⊢ <;> omega

theorem text_ne_nil : t.text ≠ [] := by
  intro h
  have := t.two_le_length_text
  simp [h] at this

-- What stands behind a term starts like another one, if there is anything.
theorem isUnitEnd_of_head?_flatMap {ts : List Term} : ∀ c ∈ (ts.flatMap text).head?, Component.isUnitEnd c := by
  cases ts
  case nil => simp
  case cons t ts =>
    obtain ⟨c, hc, hu⟩ := t.head?_text
    simp [hc, hu]

theorem split?_text {rest : List Char} (h : ∀ c ∈ rest.head?, Component.isUnitEnd c) :
    Component.split? (t.text ++ rest) = some (t.component, rest) := by
  obtain ⟨hn, hu⟩ := not_isUnitEnd t.unit_mem
  have hh : ∀ c ∈ (t.unit.toList ++ rest).head?, !Component.isUnitEnd c := by
    obtain ⟨c, cs, he⟩ := List.exists_cons_of_ne_nil hn
    simpa [he] using hu c (by simp [he])
  have hr : ∀ c ∈ rest.head?, !!Component.isUnitEnd c := by simpa using h
  rw [text, List.append_assoc, List.append_assoc,
    split?_append t.whole_isDigit t.decimals_isDigit t.digits_ne_nil hh, takeWhile_append hu hr,
    dropWhile_append hu hr]
  rfl

-- What has been split off is a term if its unit is known.
theorem exists_of_split? {s rest : List Char} {c : Component} {scale : Nat}
    (h : Component.split? s = some (c, rest)) (hu : unit? c.unit = some scale) :
    ∃ t : Term, s = t.text ++ rest ∧ t.component = c := by
  obtain ⟨decimals?, hw, hd, hn, hf, rfl⟩ := exists_decimals_of_split? h
  have hm := unit?_eq_some.mp hu
  refine ⟨⟨c.whole, decimals?, String.ofList c.unit, scale, hw, hd, hn, hm⟩, ?_, ?_⟩
  case refine_1 => simp [text]
  case refine_2 => simp [component, decimals, ← hf]

-- The sum is checked on the way, but nothing on the way is larger than the sum.
theorem addTo_component {total n : Nat} :
    t.component.addTo total = some n ↔ n < wordLimit ∧ n = total + t.nanos := by
  have hu : unit? t.unit.toList = some t.scale := unit?_eq_some.mpr (by simpa using t.unit_mem)
  have hf : fraction t.decimals = (Nat.ofDigitChars 10 t.counted 0, 10 ^ t.counted.length) := fraction_eq _
  have hw : Nat.ofDigitChars 10 t.whole 0 ≤ Nat.ofDigitChars 10 t.whole 0 * t.scale :=
    Nat.le_mul_of_pos_right _ (scale_pos t.unit_mem)
  have hd : Decimal.ofDigits t.whole = Nat.ofDigitChars 10 t.whole 0 := rfl
  simp only [Component.addTo, component, hu, hf, hd, nanos]
  have hp := Nat.zero_le (Nat.ofDigitChars 10 t.counted 0 * t.scale / 10 ^ t.counted.length)
  by_cases hn : t.whole = []
  case pos =>
    simp only [hn, List.isEmpty_nil, if_true, Option.bind_eq_bind, Option.bind_some, checked_eq_some,
      Nat.ofDigitChars_nil, Nat.zero_mul, Nat.zero_add]
    omega
  case neg =>
    simp only [List.isEmpty_iff, hn, if_false, Option.bind_eq_bind, Option.bind_some,
      Option.bind_eq_some_iff, checked_eq_some]
    constructor
    case mp =>
      rintro ⟨_, ⟨-, rfl⟩, _, ⟨-, rfl⟩, _, ⟨-, rfl⟩, hl, rfl⟩
      omega
    case mpr =>
      rintro ⟨hl, rfl⟩
      exact ⟨_, ⟨by omega, rfl⟩, _, ⟨by omega, rfl⟩, _, ⟨by omega, rfl⟩, by omega, by omega⟩

end Term

theorem sum_nil {fuel total : Nat} : sum fuel [] total = some total := by
  cases fuel <;> rfl

theorem sum_eq_bind {fuel total : Nat} {s : List Char} (h : s ≠ []) : sum (fuel + 1) s total =
    (Component.split? s).bind fun (c, rest) => (c.addTo total).bind (sum fuel rest) := by
  cases s
  case nil => exact absurd rfl h
  case cons => rw [sum] <;> first | rfl | exact h

-- A text that can be read starts with a term.
theorem exists_term_of_sum {fuel total n : Nat} {s : List Char} (hs : s ≠ [])
    (h : sum (fuel + 1) s total = some n) :
    ∃ (t : Term) (rest : List Char), s = t.text ++ rest ∧ total + t.nanos < wordLimit ∧
      sum fuel rest (total + t.nanos) = some n := by
  rw [sum_eq_bind hs] at h
  obtain ⟨⟨c, rest⟩, hc, h⟩ := Option.bind_eq_some_iff.mp h
  obtain ⟨total', ha, h⟩ := Option.bind_eq_some_iff.mp h
  obtain ⟨scale, hu, -⟩ := Option.bind_eq_some_iff.mp ha
  obtain ⟨t, rfl, rfl⟩ := Term.exists_of_split? hc hu
  obtain ⟨hl, rfl⟩ := Term.addTo_component.mp ha
  exact ⟨t, rest, rfl, hl, h⟩

-- So a text is read term by term, and nothing but another term can follow one.
theorem sum_eq_some {fuel total n : Nat} {s : List Char} (hf : s.length ≤ fuel) (ht : total < wordLimit) :
    sum fuel s total = some n ↔
      ∃ ts : List Term, s = ts.flatMap Term.text ∧ n < wordLimit ∧ n = total + (ts.map Term.nanos).sum := by
  constructor
  case mp =>
    intro h
    induction fuel generalizing s total
    case zero =>
      obtain rfl := List.length_eq_zero_iff.mp (Nat.le_zero.mp hf)
      cases h
      exact ⟨[], rfl, ht, rfl⟩
    case succ fuel hi =>
      by_cases hs : s = []
      case pos =>
        rw [hs, sum_nil] at h
        cases h
        exact ⟨[], hs, ht, rfl⟩
      case neg =>
        obtain ⟨t, rest, rfl, hl, h⟩ := exists_term_of_sum hs h
        have hr : rest.length ≤ fuel := by
          have := t.two_le_length_text
          simp at hf
          omega
        obtain ⟨ts, rfl, hn, rfl⟩ := hi hr hl h
        exact ⟨t :: ts, by simp, hn, by simp [Nat.add_assoc]⟩
  case mpr =>
    rintro ⟨ts, rfl, hn, rfl⟩
    induction ts generalizing fuel total
    case nil => simp [sum_nil]
    case cons t ts hi =>
      have hl := t.two_le_length_text
      simp only [List.flatMap_cons, List.length_append, List.map_cons, List.sum_cons] at hf hn ⊢
      obtain ⟨fuel, rfl⟩ := Nat.exists_eq_add_one_of_ne_zero (n := fuel) (by omega)
      have ha : t.component.addTo total = some (total + t.nanos) :=
        Term.addTo_component.mpr ⟨by omega, rfl⟩
      rw [sum_eq_bind (by simp [t.text_ne_nil]), Term.split?_text Term.isUnitEnd_of_head?_flatMap]
      simp only [Option.bind_some, ha]
      rw [hi (by omega) (by omega) (by omega), Nat.add_assoc]

theorem Spells.bounds {s : List Char} {n : Nat} (h : Spells s n) :
    s ≠ [] ∧ s.head? ≠ some '+' ∧ s.head? ≠ some '-' := by
  cases h
  case zero => decide
  case terms ts hts =>
    obtain ⟨t, ts, rfl⟩ := List.exists_cons_of_ne_nil hts
    obtain ⟨c, hc, hu⟩ := t.head?_text
    refine ⟨by simp [t.text_ne_nil], ?_, ?_⟩ <;> simp [hc] <;> rintro rfl <;> cases hu

-- A zero without a unit is no sequence of terms.
theorem flatMap_text_ne_zero (ts : List Term) : ts.flatMap Term.text ≠ ['0'] := by
  intro h
  cases ts
  case nil => cases h
  case cons t ts =>
    have hl := congrArg List.length h
    have ht := t.two_le_length_text
    simp at hl
    omega

theorem spells_zero {n : Nat} : Spells ['0'] n ↔ n = 0 := by
  refine ⟨fun h => ?_, fun h => h ▸ .zero⟩
  generalize hs : ['0'] = s at h
  cases h
  case zero => rfl
  case terms ts _ => exact absurd hs.symm (flatMap_text_ne_zero ts)

theorem spells_iff {s : List Char} {n : Nat} (h0 : s ≠ ['0']) (hn : s ≠ []) :
    Spells s n ↔ ∃ ts : List Term, s = ts.flatMap Term.text ∧ n = (ts.map Term.nanos).sum := by
  constructor
  case mp =>
    intro h
    cases h
    case zero => exact absurd rfl h0
    case terms ts _ => exact ⟨ts, rfl, rfl⟩
  case mpr =>
    rintro ⟨ts, rfl, rfl⟩
    exact .terms fun he => hn (by simp [he])

theorem withoutSign_cases (s : List Char) : s = '-' :: withoutSign s ∨
    s.head? ≠ some '-' ∧ (s = withoutSign s ∨ s = '+' :: withoutSign s) := by
  unfold withoutSign
  split
  case h_1 => simp
  case h_2 => simp
  case h_3 hp hm => cases s <;> simp_all

theorem withoutSign_of_spells {s : List Char} {n : Nat} (h : Spells s n) :
    withoutSign s = s ∧ withoutSign ('+' :: s) = s := by
  obtain ⟨-, hp, hm⟩ := h.bounds
  refine ⟨?_, rfl⟩
  unfold withoutSign
  split <;> simp_all

-- Of a sign, nothing matters but whether it is a minus, which only zero can have.
theorem ofText?_eq_some {s : List Char} {n : Nat} : ofText? s = some n ↔
    n < resultLimit ∧ Spells (withoutSign s) n ∧ (s.head? = some '-' → n = 0) := by
  have hz : 0 < wordLimit := by decide
  have hl : resultLimit ≤ wordLimit := by decide
  simp only [ofText?]
  split
  case isTrue h0 =>
    simp only [h0, spells_zero, Option.some.injEq]
    have : 0 < resultLimit := by decide
    omega
  case isFalse h0 =>
    split
    case isTrue he =>
      have hn : ¬Spells (withoutSign s) n := fun h => h.bounds.left (List.isEmpty_iff.mp he)
      simp [hn]
    case isFalse he =>
      have hn : withoutSign s ≠ [] := fun h => he (List.isEmpty_iff.mpr h)
      simp only [Option.bind_eq_bind, Option.bind_eq_some_iff, sum_eq_some (Nat.le_refl _) hz, Nat.zero_add,
        Option.ite_none_left_eq_some, Option.ite_none_right_eq_some, Option.some.injEq, spells_iff h0 hn]
      constructor
      case mp =>
        rintro ⟨_, ⟨ts, hs, -, rfl⟩, hm, hr, rfl⟩
        exact ⟨hr, ⟨ts, hs, rfl⟩, by simpa using hm⟩
      case mpr =>
        rintro ⟨hr, ⟨ts, hs, rfl⟩, hm⟩
        exact ⟨_, ⟨ts, hs, Nat.lt_of_lt_of_le hr hl, rfl⟩, by simpa using hm, hr, rfl⟩

theorem ofText?_eq_some_iff {s : List Char} (h : s.head? ≠ some '-') {n : Nat} :
    ofText? s = some n ↔ n ≤ 2 ^ 64 - 1 ∧ ∃ u, (s = u ∨ s = '+' :: u) ∧ Spells u n := by
  rw [ofText?_eq_some]
  have hr : resultLimit = 2 ^ 64 := rfl
  have hl : n < resultLimit ↔ n ≤ 2 ^ 64 - 1 := by omega
  refine and_congr hl ⟨fun ⟨hs, _⟩ => ?_, fun ⟨u, hu, hs⟩ => ?_⟩
  case refine_1 =>
    obtain hw | ⟨-, hw⟩ := withoutSign_cases s
    case inl => exact absurd (by rw [hw]; rfl) h
    case inr => exact ⟨withoutSign s, hw, hs⟩
  case refine_2 =>
    obtain ⟨he, hp⟩ := withoutSign_of_spells hs
    obtain rfl | rfl := hu
    case inl => exact ⟨he.symm ▸ hs, fun hm => absurd hm h⟩
    case inr => exact ⟨hp.symm ▸ hs, fun hm => absurd hm h⟩

-- Half a nanosecond is dropped, and so is what stands behind the eighteenth decimal.
theorem ofText?_long : ofText? "+1h.5µs0.12345678901234567899s2.5ns".toList = some 3_600_123_457_291 ∧
    ∃ u, ("+1h.5µs0.12345678901234567899s2.5ns".toList = u ∨
      "+1h.5µs0.12345678901234567899s2.5ns".toList = '+' :: u) ∧ Spells u 3_600_123_457_291 := by
  have h : ofText? "+1h.5µs0.12345678901234567899s2.5ns".toList = some 3_600_123_457_291 := by decide
  exact ⟨h, ((ofText?_eq_some_iff (by decide)).mp h).right⟩

end EnvConfig.Duration
