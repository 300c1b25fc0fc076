import EnvConfig.Proofs.Precision

-- Durations with a minus sign. Such a text is read, as zero, if no term of it makes a nanosecond with the
-- decimals that count. So a text can be read that stands for less than zero, though not if its terms are
-- whole nanoseconds.

namespace EnvConfig.Duration

theorem digit_eq_zero {c : Char} (h : c.isDigit) : Decimal.digit c = 0 ↔ c = '0' := by
  constructor
  case mpr => exact fun hc => hc ▸ rfl
  case mp =>
    intro hz
    have hl : c.toNat ≤ '0'.toNat := Nat.sub_eq_zero_iff_le.mp hz
    have hu : '0'.toNat ≤ c.toNat := (Char.isDigit_iff_toNat.mp h).left
    exact Char.toNat_inj.mp (Nat.le_antisymm hl hu)

theorem ofDigitChars_eq_zero {ds : List Char} (h : ∀ c ∈ ds, c.isDigit) :
    Nat.ofDigitChars 10 ds 0 = 0 ↔ ∀ c ∈ ds, c = '0' := by
  induction ds
  case nil => simp
  case cons c ds hi =>
    have ⟨hc, hds⟩ := List.forall_mem_cons.mp h
    have hd : Nat.ofDigitChars 10 (c :: ds) 0 =
        10 ^ ds.length * Decimal.digit c + Nat.ofDigitChars 10 ds 0 := by
      rw [Nat.ofDigitChars_cons, Nat.ofDigitChars_eq_ofDigitChars_zero, Nat.mul_zero, Nat.zero_add]
      rfl
    calc
      _ ↔ Decimal.digit c = 0 ∧ Nat.ofDigitChars 10 ds 0 = 0 := by simp [hd]
      _ ↔ _ := by rw [digit_eq_zero hc, hi hds, List.forall_mem_cons]

namespace Term

variable {t : Term}

-- Nothing but zeros stands before the point, and the decimals that count make less than a nanosecond.
structure IsNegligible (t : Term) : Prop where
  whole    : ∀ c ∈ t.whole, c = '0'
  decimals : Nat.ofDigitChars 10 t.counted 0 * t.scale < 10 ^ t.counted.length

-- The last decimal makes whole nanoseconds.
def IsCoarse (t : Term) : Prop :=
  10 ^ t.decimals.length ∣ t.scale

theorem nanos_eq_zero : t.nanos = 0 ↔ t.IsNegligible := by
  have hp : 0 < 10 ^ t.counted.length := Nat.pow_pos (by decide)
  have hs : t.scale ≠ 0 := Nat.ne_of_gt (scale_pos t.unit_mem)
  calc
    _ ↔ Nat.ofDigitChars 10 t.whole 0 = 0 ∧
        Nat.ofDigitChars 10 t.counted 0 * t.scale < 10 ^ t.counted.length := by
      rw [nanos, Nat.add_eq_zero_iff, Nat.mul_eq_zero, or_iff_left hs, Nat.div_eq_zero_iff_lt hp]
    _ ↔ _ := by
      rw [ofDigitChars_eq_zero t.whole_isDigit]
      exact ⟨fun h => ⟨h.left, h.right⟩, fun h => ⟨h.whole, h.decimals⟩⟩

theorem exact_nonneg : 0 ≤ t.exact := by
  unfold exact
  positivity

theorem exact_eq_zero : t.exact = 0 ↔ ∀ c ∈ t.whole ++ t.decimals, c = '0' := by
  have hs : (t.scale : ℚ) ≠ 0 := Nat.cast_ne_zero.mpr (Nat.ne_of_gt (scale_pos t.unit_mem))
  have hw : (0 : ℚ) ≤ Nat.ofDigitChars 10 t.whole 0 := Nat.cast_nonneg _
  have hd : (0 : ℚ) ≤ Nat.ofDigitChars 10 t.decimals 0 / 10 ^ t.decimals.length := by positivity
  calc
    _ ↔ Nat.ofDigitChars 10 t.whole 0 = 0 ∧ Nat.ofDigitChars 10 t.decimals 0 = 0 := by
      rw [exact, mul_eq_zero, or_iff_left hs, add_eq_zero_iff_of_nonneg hw hd]
      simp
    _ ↔ _ := by
      rw [ofDigitChars_eq_zero t.whole_isDigit, ofDigitChars_eq_zero t.isDigit_of_mem_decimals,
        List.forall_mem_append]

theorem exact_eq_nanos (h : t.IsCoarse) : t.exact = t.nanos := by
  have hp : (10 : ℚ) ^ t.decimals.length ≠ 0 := by positivity
  have hl : t.decimals.length ≤ 18 := by
    have hle : 10 ^ t.decimals.length ≤ 10 ^ 18 :=
      Nat.le_trans (Nat.le_of_dvd (scale_pos t.unit_mem) h) (scale_le t.unit_mem)
    exact (Nat.pow_le_pow_iff_right (by decide)).mp hle
  have ⟨k, hk⟩ := h
  have he : t.exact =
      (Nat.ofDigitChars 10 t.whole 0 * t.scale + Nat.ofDigitChars 10 t.decimals 0 * k : Nat) := by
    rw [exact, add_mul, hk]
    push_cast
    field_simp
  have hf : ⌊t.exact⌋₊ = t.nanos := floor_eq_of_excess_eq_zero (excess_eq_zero hl)
  rw [← hf, he, Nat.floor_natCast]

theorem isNegligible_of_exact_eq_zero (h : t.exact = 0) : t.IsNegligible := by
  have hf : ⌊t.exact⌋₊ = 0 := by rw [h, Nat.floor_zero]
  exact nanos_eq_zero.mp (Nat.le_zero.mp (hf ▸ t.nanos_le_floor))

-- The decimals that do not count can make it up to a nanosecond, and beyond.
theorem exact_lt_of_isNegligible (h : t.IsNegligible) : t.exact < if t.mayFallShort then 2 else 1 := by
  have hf : ⌊t.exact⌋₊ ≤ if t.mayFallShort then 1 else 0 := by
    simpa [nanos_eq_zero.mpr h] using t.floor_le_nanos
  calc
    _ < (⌊t.exact⌋₊ : ℚ) + 1 := Nat.lt_floor_add_one _
    _ ≤ (if t.mayFallShort then 1 else 0 : Nat) + 1 := by exact_mod_cast Nat.succ_le_succ hf
    _ = _ := by split <;> norm_num

end Term

section Texts

variable {s : List Char} {ts : List Term} {n : Nat}

theorem sum_exact_eq_zero : (ts.map Term.exact).sum = 0 ↔ ∀ t ∈ ts, t.exact = 0 := by
  induction ts
  case nil => simp
  case cons t ts hi =>
    have hts : 0 ≤ (ts.map Term.exact).sum := List.sum_nonneg (by simpa using fun t _ => t.exact_nonneg)
    rw [List.map_cons, List.sum_cons, add_eq_zero_iff_of_nonneg t.exact_nonneg hts, hi,
      List.forall_mem_cons]

theorem ofText?_minus : ofText? ('-' :: s) = some n ↔ n = 0 ∧ Spells s 0 := by
  rw [ofText?_eq_some]
  constructor
  case mp =>
    intro ⟨_, hs, hz⟩
    obtain rfl := hz rfl
    exact ⟨rfl, hs⟩
  case mpr =>
    intro ⟨hn, hs⟩
    subst hn
    exact ⟨by decide, hs, fun _ => rfl⟩

theorem isSome_minus : (ofText? ('-' :: s)).isSome ↔ Spells s 0 := by
  simp [Option.isSome_iff_exists, ofText?_minus]

theorem ofText?_of_spells_zero (h : Spells s 0) : ofText? s = some 0 :=
  ofText?_eq_some.mpr ⟨by decide, (withoutSign_of_spells h).left.symm ▸ h, fun _ => rfl⟩

theorem ofText?_minus_eq_none (h : ofText? s = none) : ofText? ('-' :: s) = none := by
  by_contra hn
  have hs := isSome_minus.mp (Option.isSome_iff_ne_none.mpr hn)
  cases h.symm.trans (ofText?_of_spells_zero hs)

namespace HasTerms

theorem spells_iff (h : HasTerms s ts) : Spells s n ↔ n = (ts.map Term.nanos).sum := by
  constructor
  case mpr => exact fun hn => hn ▸ h.spells
  case mp =>
    intro hs
    have ⟨ts', h', hn⟩ := hs.exists_terms
    exact h.unique h' ▸ hn

theorem isSome_minus_iff (h : HasTerms s ts) :
    (ofText? ('-' :: s)).isSome ↔ ∀ t ∈ ts, t.IsNegligible :=
  calc
    _ ↔ (ts.map Term.nanos).sum = 0 := by rw [isSome_minus, h.spells_iff, eq_comm]
    _ ↔ ∀ t ∈ ts, t.nanos = 0 := by simp [List.sum_eq_zero_iff]
    _ ↔ _ := by simp only [Term.nanos_eq_zero]

end HasTerms

-- What becomes of terms behind a minus sign. Zero is read, but so is whatever makes no nanosecond in any of the
-- terms, unless all of them are coarse.
structure IsNegated (s : List Char) (ts : List Term) : Prop where
  isSome_iff : (ofText? ('-' :: s)).isSome ↔ ∀ t ∈ ts, t.IsNegligible
  eq_zero    : ∀ n, ofText? ('-' :: s) = some n → n = 0
  small      : (ofText? ('-' :: s)).isSome → ∀ t ∈ ts, t.exact < if t.mayFallShort then 2 else 1
  zeros      : (ts.map Term.exact).sum = 0 ↔ ∀ t ∈ ts, ∀ c ∈ t.whole ++ t.decimals, c = '0'
  of_zero    : (ts.map Term.exact).sum = 0 → ofText? ('-' :: s) = some 0
  coarse     : (∀ t ∈ ts, t.IsCoarse) → ((ofText? ('-' :: s)).isSome ↔ (ts.map Term.exact).sum = 0)

theorem HasTerms.isNegated (h : HasTerms s ts) : IsNegated s ts where
  isSome_iff    := h.isSome_minus_iff
  eq_zero n hn  := (ofText?_minus.mp hn).left
  small hs t ht := Term.exact_lt_of_isNegligible (h.isSome_minus_iff.mp hs t ht)
  zeros         := by simp only [sum_exact_eq_zero, Term.exact_eq_zero]
  of_zero hz    := by
    have hs : (ofText? ('-' :: s)).isSome := h.isSome_minus_iff.mpr fun t ht =>
      Term.isNegligible_of_exact_eq_zero (sum_exact_eq_zero.mp hz t ht)
    exact ofText?_minus.mpr ⟨rfl, isSome_minus.mp hs⟩
  coarse hc     := by
    rw [h.isSome_minus_iff, sum_exact_eq_zero]
    refine forall₂_congr fun t ht => ?_
    rw [← Term.nanos_eq_zero, Term.exact_eq_nanos (hc t ht), Nat.cast_eq_zero]

end Texts

-- A minus sign makes no text readable, and leaves few that are.
theorem negated_of_ofText? (s : List Char) :
    (ofText? s = none → ofText? ('-' :: s) = none) ∧
    ∀ n, ofText? s = some n → s.head? ≠ some '+' → s.head? ≠ some '-' →
      ∃ ts, HasTerms s ts ∧ IsNegated s ts := by
  refine ⟨ofText?_minus_eq_none, fun n h hp hm => ?_⟩
  have ⟨_, hs, _⟩ := ofText?_eq_some.mp h
  obtain hw | ⟨-, hw | hw⟩ := withoutSign_cases s
  case inl     => exact absurd (congrArg List.head? hw) hm
  case inr.inr => exact absurd (congrArg List.head? hw) hp
  case inr.inl =>
    have ⟨ts, hts, _⟩ := (hw.symm ▸ hs : Spells s n).exists_terms
    exact ⟨ts, hts, hts.isNegated⟩

theorem negated_minuteAndNano : ofText? "0.000000000016m.9ns".toList = some 0 ∧
    ∃ ts, HasTerms "0.000000000016m.9ns".toList ts ∧ IsNegated "0.000000000016m.9ns".toList ts := by
  have h : ofText? "0.000000000016m.9ns".toList = some 0 := by decide
  exact ⟨h, (negated_of_ofText? _).right 0 h (by decide) (by decide)⟩

-- Half a nanosecond less than zero is not refused.
theorem belowZero_not_refused : ¬∀ (s : List Char) (n : Nat) (ts : List Term), ofText? s = some n →
    HasTerms s ts → ((ofText? ('-' :: s)).isSome ↔ (ts.map Term.exact).sum = 0) := by
  intro h
  let t : Term := {
    whole            := ['0']
    decimals?        := some ['5']
    unit             := "ns"
    scale            := 1
    whole_isDigit    := List.all_eq_true.mp rfl
    decimals_isDigit := fun _ h => Option.some.inj h ▸ List.all_eq_true.mp rfl
    digits_ne_nil    := by decide
    unit_mem         := by decide }
  have hs : "0.5ns".toList = [t].flatMap Term.text := by decide
  have ht : HasTerms "0.5ns".toList [t] := hs ▸ .terms (List.cons_ne_nil t [])
  have hz := (h "0.5ns".toList 0 [t] (by decide) ht).mp (by decide)
  have hd := Term.exact_eq_zero.mp (sum_exact_eq_zero.mp hz t (List.mem_singleton_self t))
  have h5 : '5' = '0' := hd '5' (by decide)
  cases h5

end EnvConfig.Duration
