import EnvConfig.Proofs.Durations
import EnvConfig.Value.Machine
import Mathlib.Algebra.Order.Group.Nat

-- Nothing that is not checked on the way of a machine can go wrong, and the duration is the one that is read.

namespace EnvConfig.Duration

namespace Octets

theorem position_eq {p : Char → Bool} {s : List Char} :
    position p s = (encode (s.takeWhile (!p ·))).length := by
  induction s
  case nil => rfl
  case cons c s hi =>
    rw [position]
    split
    case isTrue h => simp [h]
    case isFalse h => simp [h, hi, String.length_utf8EncodeChar]

-- The first character of a kind is at a boundary, and so is the end of the text.
theorem splitAt_position {p : Char → Bool} {s : List Char} :
    splitAt (position p s) s = .value (s.takeWhile (!p ·), s.dropWhile (!p ·)) :=
  splitAt_eq_value.mpr ⟨List.takeWhile_append_dropWhile.symm, position_eq.symm⟩

end Octets

namespace Machine

open Octets

theorem not_nonDigit : (fun c => !nonDigit c) = Char.isDigit := by
  funext c
  simp [nonDigit]

theorem decimals_eq (s : List Char) : decimals s = .value (match s with
    | '.' :: s => (s.takeWhile Char.isDigit, s.dropWhile Char.isDigit)
    | s        => ([], s)) := by
  cases s
  case nil => rfl
  case cons c s =>
    by_cases hc : c = '.'
    case pos => simp only [hc, decimals, splitAt_position, not_nonDigit]
    case neg => simp [decimals, hc]

theorem component_eq (s : List Char) : component s = .ofOption (Component.split? s) := by
  simp only [component, Component.split?, splitAt_position, not_nonDigit, decimals_eq, Outcome.value_bind]
  rw [apply_ite Outcome.ofOption]
  rfl

-- What holds of numerator and denominator after any number of digits.
structure IsBounded (fraction : Nat × Nat) : Prop where
  lt  : fraction.1 < fraction.2
  pow : ∃ k ≤ 18, fraction.2 = 10 ^ k

namespace IsBounded

variable {fraction : Nat × Nat} {c : Char} {ds : List Char}

theorem start : IsBounded (0, 1) where
  lt  := by decide
  pow := ⟨0, by decide, rfl⟩

theorem le (b : IsBounded fraction) : fraction.2 ≤ 10 ^ 18 := by
  obtain ⟨k, hk, h⟩ := b.pow
  exact h ▸ Nat.pow_le_pow_right (by decide) hk

theorem addDigit (b : IsBounded fraction) (h : c.isDigit) : IsBounded (addDigit fraction c) := by
  obtain ⟨num, den⟩ := fraction
  rw [Duration.addDigit]
  split
  case isTrue => exact b
  case isFalse hd =>
    obtain ⟨k, hk, hp⟩ := b.pow
    have hl := b.lt
    have hc := digit_le h
    have hk : k < 18 := by
      by_contra hn
      exact hd <| (Nat.pow_le_pow_right (by decide) (Nat.le_of_not_lt hn)).trans hp.ge
    exact ⟨by dsimp only at hl ⊢; omega, k + 1, hk, by dsimp only at hp ⊢; rw [hp, Nat.pow_succ']⟩

theorem foldl (b : IsBounded fraction) (h : ∀ c ∈ ds, c.isDigit) :
    IsBounded (ds.foldl Duration.addDigit fraction) := by
  induction ds generalizing fraction
  case nil => exact b
  case cons c ds hi =>
    obtain ⟨hc, hds⟩ := List.forall_mem_cons.mp h
    exact hi (b.addDigit hc) hds

end IsBounded

theorem encode_digit {c : Char} (h : c.isDigit) : String.utf8EncodeChar c = [.ofNat c.toNat] := by
  have hc : c.toNat ≤ 127 := (Char.isDigit_iff_toNat.mp h).right.trans (by decide)
  have hs : c.utf8Size = 1 := Char.utf8Size_eq_one_iff.mpr (UInt32.le_iff_toNat_le.mpr hc)
  rw [String.utf8EncodeChar_eq_singleton hs]
  rfl

theorem distance_digit {c : Char} (h : c.isDigit) :
    Word.distance (.ofNat c.toNat) 48 = .value (Decimal.digit c) := by
  obtain ⟨hl, hu⟩ := Char.isDigit_iff_toNat.mp h
  have hn : (UInt8.ofNat c.toNat).toNat = c.toNat := UInt8.toNat_ofNat_of_lt' (Nat.lt_of_le_of_lt hu (by decide))
  have hle : 48 ≤ UInt8.ofNat c.toNat := UInt8.le_iff_toNat_le.mpr (by rw [hn]; exact hl)
  rw [Word.distance, if_pos hle, UInt8.toNat_sub_of_le _ _ hle, hn]
  rfl

theorem mul_eq {a b : Nat} (h : a * b < wordLimit) : Word.mul a b = .value (a * b) :=
  if_pos h

theorem add_eq {a b : Nat} (h : a + b < wordLimit) : Word.add a b = .value (a + b) :=
  if_pos h

theorem div_eq {a b : Nat} (h : 0 < b) : Word.div a b = .value (a / b) :=
  if_neg (Nat.ne_of_gt h)

-- Digits behind the last one that counts change nothing.
theorem foldl_addDigit_of_ge {ds : List Char} {num den : Nat} (h : den ≥ Nat.pow 10 18) :
    ds.foldl addDigit (num, den) = (num, den) := by
  induction ds
  case nil => rfl
  case cons c ds hi => rwa [List.foldl_cons, addDigit, if_pos h]

theorem readFraction_eq {ds : List Char} {fraction : Nat × Nat} (b : IsBounded fraction)
    (h : ∀ c ∈ ds, c.isDigit) : readFraction (encode ds) fraction = .value (ds.foldl addDigit fraction) := by
  induction ds generalizing fraction
  case nil => rfl
  case cons c ds hi =>
    obtain ⟨hc, hds⟩ := List.forall_mem_cons.mp h
    obtain ⟨num, den⟩ := fraction
    have ha := b.addDigit hc
    rw [encode_cons, encode_digit hc, List.singleton_append, readFraction]
    split
    case isTrue hd => rw [foldl_addDigit_of_ge hd]
    case isFalse hd =>
      have hl := b.lt
      have hdl := digit_le hc
      have hw : wordLimit = 2 ^ 128 := rfl
      have hn : Duration.addDigit (num, den) c = (num * 10 + Decimal.digit c, den * 10) := by
        rw [addDigit, if_neg hd, Nat.mul_comm, Nat.mul_comm den]
      dsimp only at hl
      rw [mul_eq (by omega), distance_digit hc]
      simp only [Outcome.value_bind]
      rw [add_eq (by omega), mul_eq (by omega)]
      simp only [Outcome.value_bind]
      rw [List.foldl_cons, hn]
      exact hi (hn ▸ ha) hds

theorem fractionOf_eq {scale : Nat} {ds : List Char} (hs : scale ≤ 10 ^ 18) (h : ∀ c ∈ ds, c.isDigit) :
    fractionOf scale ds = .value ((fraction ds).1 * scale / (fraction ds).2) := by
  have b : IsBounded (fraction ds) := IsBounded.start.foldl h
  have hm : (fraction ds).1 * scale < wordLimit :=
    calc
      _ ≤ 10 ^ 18 * 10 ^ 18 := Nat.mul_le_mul (b.lt.le.trans b.le) hs
      _ < wordLimit := by decide
  simp only [fractionOf, readFraction_eq .start h, Outcome.value_bind]
  exact (congrArg (· >>= _) (mul_eq hm)).trans (div_eq (Nat.zero_lt_of_lt b.lt))

theorem addTo_eq {c : Component} {total : Nat} (h : ∀ d ∈ c.fraction, d.isDigit) :
    addTo c total = .ofOption (c.addTo total) := by
  rw [addTo, Component.addTo]
  cases hu : unit? c.unit
  case none => rfl
  case some scale =>
    have hf := fractionOf_eq (scale_le (unit?_eq_some.mp hu)) h
    simp only [hf, Word.checkedAdd, Word.checkedMul, Outcome.ofOption_some, Outcome.value_bind,
      Option.bind_eq_bind, Option.bind_some]
    split
    case isTrue => rfl
    case isFalse => simp only [Outcome.ofOption_bind]

theorem isDigit_of_split? {s rest : List Char} {c : Component} (h : Component.split? s = some (c, rest)) :
    ∀ d ∈ c.fraction, d.isDigit := by
  obtain ⟨decimals?, -, hd, -, hf, -⟩ := exists_decimals_of_split? h
  cases decimals?
  case none => simp [hf]
  case some ds => exact hf ▸ hd ds rfl

theorem step_eq (s : List Char) (total : Nat) : step s total = .ofOption do
    let (c, rest) ← Component.split? s
    return (rest, ← c.addTo total) := by
  rw [step, component_eq]
  cases hs : Component.split? s
  case none => rfl
  case some p =>
    simp [addTo_eq (isDigit_of_split? hs)]

theorem loop_eq_bind {s : List Char} {total : Nat} (h : s ≠ []) :
    loop s total = step s total >>= fun (rest, total) => loop rest total := by
  rw [loop, if_neg h]
  split <;> simp [*]

theorem loop_eq {fuel total : Nat} {s : List Char} (h : s.length ≤ fuel) :
    loop s total = .ofOption (sum fuel s total) := by
  induction fuel generalizing s total
  case zero =>
    obtain rfl := List.length_eq_zero_iff.mp (Nat.le_zero.mp h)
    rw [loop, if_pos rfl, sum_nil, Outcome.ofOption_some]
  case succ fuel hi =>
    by_cases hs : s = []
    case pos => rw [hs, loop, if_pos rfl, sum_nil, Outcome.ofOption_some]
    case neg =>
      rw [loop_eq_bind hs, sum_eq_bind hs, step_eq]
      cases hc : Component.split? s
      case none => rfl
      case some p =>
        obtain ⟨front, hf, rfl⟩ := exists_of_component ((component_eq s).trans (congrArg Outcome.ofOption hc))
        have hl := List.length_pos_iff.mpr hf
        rw [List.length_append] at h
        cases ha : p.1.addTo total
        case none => simp [ha]
        case some => simp [ha, hi (s := p.2) (by omega)]

theorem run_eq (s : List Char) : run s = .ofOption (ofText? s) := by
  simp only [run, ofText?, loop_eq (Nat.le_refl _)]
  split
  case isTrue => rfl
  case isFalse =>
    split
    case isTrue => rfl
    case isFalse =>
      rw [Option.bind_eq_bind, Outcome.ofOption_bind]
      congr 1
      funext total
      split
      case isTrue => rfl
      case isFalse => split <;> rfl

theorem faultless :
    (∀ s, run s = .ofOption (ofText? s) ∧ ∀ f, run s ≠ .fault f) ∧
    ∀ s total rest total', step s total = .value (rest, total') → (encode rest).length < (encode s).length :=
  ⟨fun s => ⟨run_eq s, run_eq s ▸ Outcome.ofOption_ne_fault _⟩, fun _ _ _ _ => step_shortens⟩

-- A micro sign takes two octets.
theorem faultless_micro : step "1.5µs2h".toList 250 = .value ("2h".toList, 1750) ∧
    (encode "2h".toList).length < (encode "1.5µs2h".toList).length := by
  have h : step "1.5µs2h".toList 250 = .value ("2h".toList, 1750) := by decide
  exact ⟨h, faultless.right _ _ _ _ h⟩

end Machine

end EnvConfig.Duration
