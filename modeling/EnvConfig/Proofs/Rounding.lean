import EnvConfig.Value.Floating
import Mathlib.Algebra.Order.Field.Power
import Mathlib.Tactic.Linarith
import Mathlib.Tactic.Ring

-- From which number on rounding leads to the infinite one: from halfway between the greatest number of the format
-- and what would come next. Rounding twice moves that by half a unit of the first format.

namespace EnvConfig.FloatFormat

section Nearest

variable {num den k : Nat}

theorem nearest_le (h : num ≤ k * den) (hd : 0 < den) : nearest num den ≤ k := by
  have hn : num = den * (num / den) + num % den := (Nat.div_add_mod ..).symm
  unfold nearest
  generalize num / den = q at *
  generalize num % den = r at *
  obtain hq | rfl | hq : q + 1 ≤ k ∨ q = k ∨ k + 1 ≤ q := by omega
  case inl =>
    dsimp only
    split <;> omega
  case inr.inl =>
    have hr : r = 0 := by
      rw [Nat.mul_comm q den] at h
      omega
    simp [hr, Nat.ne_of_lt hd]
  case inr.inr =>
    have hm : k * den + den ≤ den * q := by
      calc
        _ = den * (k + 1) := by ring
        _ ≤ den * q := Nat.mul_le_mul_left den hq
    omega

theorem le_nearest (h : k * den ≤ num) (hd : 0 < den) : k ≤ nearest num den := by
  have hq : k ≤ num / den := (Nat.le_div_iff_mul_le hd).mpr h
  unfold nearest
  dsimp only
  split <;> omega

-- What is halfway in front of an even number is rounded up.
theorem le_nearest_iff (hk : k % 2 = 0) (hd : 0 < den) : k ≤ nearest num den ↔ 2 * (k * den) ≤ 2 * num + den := by
  have hn : num = den * (num / den) + num % den := (Nat.div_add_mod ..).symm
  have hr : num % den < den := Nat.mod_lt _ hd
  unfold nearest
  generalize num / den = q at *
  generalize num % den = r at *
  obtain hq | rfl | hq : k ≤ q ∨ k = q + 1 ∨ q + 2 ≤ k := by omega
  case inl =>
    have hm : k * den ≤ den * q := Nat.mul_comm q den ▸ Nat.mul_le_mul_right den hq
    dsimp only
    split <;> omega
  case inr.inl =>
    have hm : (q + 1) * den = den * q + den := by ring
    dsimp only
    simp only [Bool.or_eq_true, Bool.and_eq_true, decide_eq_true_eq]
    split <;> omega
  case inr.inr =>
    have hm : den * q + 2 * den ≤ k * den := by
      calc
        _ = (q + 2) * den := by ring
        _ ≤ k * den := Nat.mul_le_mul_right den hq
    dsimp only
    split <;> omega

-- The same for the exact quotient.
theorem le_nearest_iff_sub_half_le (hk : k % 2 = 0) (hd : 0 < den) :
    k ≤ nearest num den ↔ (k : ℚ) - 1 / 2 ≤ num / den := by
  have hd' : (0 : ℚ) < den := by exact_mod_cast hd
  rw [le_nearest_iff hk hd, le_div_iff₀ hd']
  constructor
  case mp =>
    intro h
    have h : 2 * ((k : ℚ) * den) ≤ 2 * num + den := by exact_mod_cast h
    linarith
  case mpr =>
    intro h
    have h : 2 * ((k : ℚ) * den) ≤ 2 * num + den := by linarith
    exact_mod_cast h

end Nearest

section Magnitude

variable {num den : Nat}

theorem scaled_pos (num : Nat) (hd : 0 < den) (e : Int) : 0 < (scaled num den e).2 := by
  unfold scaled
  split
  case isTrue => exact Nat.mul_pos hd (Nat.pow_pos (by decide))
  case isFalse => exact hd

theorem scaled_eq (num den : Nat) (e : Int) :
    ((scaled num den e).1 : ℚ) / (scaled num den e).2 = num / den / 2 ^ e := by
  unfold scaled
  split
  case isTrue h =>
    obtain ⟨n, rfl⟩ := Int.eq_ofNat_of_zero_le h
    simp [div_div]
  case isFalse h =>
    obtain ⟨n, rfl⟩ := Int.exists_eq_neg_ofNat (Int.le_of_not_le h)
    simp [div_mul_eq_mul_div]

theorem two_zpow_log2_le (h : 0 < num) : (2 : ℚ) ^ (num.log2 : Int) ≤ num := by
  rw [zpow_natCast]
  exact_mod_cast Nat.log2_self_le (Nat.ne_of_gt h)

theorem lt_two_zpow_log2 (num : Nat) : (num : ℚ) < 2 ^ (num.log2 + 1 : Int) := by
  have h : num < 2 ^ (num.log2 + 1) := Nat.lt_log2_self
  exact_mod_cast h

-- The magnitude of a quotient is the logarithm to the base of two, rounded down.
theorem magnitude_spec (hn : 0 < num) (hd : 0 < den) :
    (2 : ℚ) ^ magnitude num den ≤ num / den ∧ (num : ℚ) / den < 2 ^ (magnitude num den + 1) := by
  have hd' : (0 : ℚ) < den := by exact_mod_cast hd
  have hl : (2 : ℚ) ^ (num.log2 - den.log2 - 1 : Int) ≤ num / den := by
    rw [le_div_iff₀ hd']
    calc
      _ ≤ (2 : ℚ) ^ (num.log2 - den.log2 - 1 : Int) * 2 ^ (den.log2 + 1 : Int) := by
        gcongr
        exact (lt_two_zpow_log2 den).le
      _ = 2 ^ (num.log2 : Int) := by
        rw [← zpow_add₀ two_ne_zero]
        congr 1
        ring
      _ ≤ num := two_zpow_log2_le hn
  have hu : (num : ℚ) / den < 2 ^ (num.log2 - den.log2 + 1 : Int) := by
    rw [div_lt_iff₀ hd']
    calc
      _ < (2 : ℚ) ^ (num.log2 + 1 : Int) := lt_two_zpow_log2 num
      _ = 2 ^ (num.log2 - den.log2 + 1 : Int) * 2 ^ (den.log2 : Int) := by
        rw [← zpow_add₀ two_ne_zero]
        congr 1
        ring
      _ ≤ _ := by
        gcongr
        exact two_zpow_log2_le hd
  have hs : (scaled num den (num.log2 - den.log2)).2 ≤ (scaled num den (num.log2 - den.log2)).1 ↔
      (2 : ℚ) ^ (num.log2 - den.log2 : Int) ≤ num / den := by
    have hp : (0 : ℚ) < (scaled num den (num.log2 - den.log2)).2 := by exact_mod_cast scaled_pos num hd _
    rw [← one_le_div₀ (zpow_pos two_pos _), ← scaled_eq, one_le_div₀ hp, Nat.cast_le]
  unfold magnitude
  dsimp only
  split
  case isTrue h => exact ⟨hs.mp h, hu⟩
  case isFalse h => exact ⟨hl, by simpa using mt hs.mpr h⟩

end Magnitude

section Round

variable {f : FloatFormat} {negative : Bool} {num den k : Nat} {e : Int}

-- A format whose numbers have at least one bit and one exponent.
structure IsRegular (f : FloatFormat) : Prop where
  precision : 1 ≤ f.precision
  exponents : f.minExponent ≤ f.maxExponent

-- The exponent of the last bit of the numbers that are as large as a quotient.
def lastExponent (f : FloatFormat) (num den : Nat) : Int :=
  max f.minExponent (magnitude num den - (f.precision - 1))

def significand (f : FloatFormat) (num den : Nat) : Nat :=
  nearest (scaled num den (f.lastExponent num den)).1 (scaled num den (f.lastExponent num den)).2

-- What a quotient is rounded to in a format without a greatest exponent.
def roundedValue (f : FloatFormat) (num den : Nat) : ℚ :=
  f.significand num den * 2 ^ f.lastExponent num den

theorem round_eq : f.round negative num den =
    if f.significand num den = 2 ^ f.precision then
      if f.lastExponent num den + 1 > f.maxExponent then .infinite negative
      else .finite negative (2 ^ (f.precision - 1)) (f.lastExponent num den + 1)
    else if f.lastExponent num den > f.maxExponent then .infinite negative
    else .finite negative (f.significand num den) (f.lastExponent num den) := by
  unfold round
  dsimp only
  split
  case isTrue h => exact (if_pos (show f.significand num den = 2 ^ f.precision from h)).symm
  case isFalse h => exact (if_neg (show ¬f.significand num den = 2 ^ f.precision from h)).symm

-- One bit less is made up for by the next exponent.
theorem two_pow_precision_mul (h : f.IsRegular) (e : Int) :
    (2 : ℚ) ^ f.precision * 2 ^ e = 2 ^ (f.precision - 1) * 2 ^ (e + 1) := by
  rw [zpow_add_one₀ two_ne_zero, mul_comm _ (2 : ℚ), ← mul_assoc, ← pow_succ, Nat.sub_add_cancel h.precision]

theorem two_pow_precision_mul_le (h : f.IsRegular) {e e' : Int} (he : e < e') :
    (2 : ℚ) ^ f.precision * 2 ^ e ≤ 2 ^ (f.precision - 1) * 2 ^ e' := by
  rw [two_pow_precision_mul h]
  gcongr
  · exact one_le_two
  · omega

theorem div_lt_of_lastExponent (hn : 0 < num) (hd : 0 < den) :
    (num : ℚ) / den < 2 ^ f.precision * 2 ^ f.lastExponent num den := by
  calc
    _ < (2 : ℚ) ^ (magnitude num den + 1) := (magnitude_spec hn hd).right
    _ ≤ 2 ^ (f.precision + f.lastExponent num den) := by
      refine zpow_le_zpow_right₀ one_le_two ?_
      unfold lastExponent
      omega
    _ = _ := by rw [zpow_add₀ two_ne_zero, zpow_natCast]

-- Above the least exponent, no bit in front is wasted.
theorem le_div_of_lastExponent (h : f.IsRegular) (he : f.minExponent < f.lastExponent num den) (hn : 0 < num)
    (hd : 0 < den) : (2 : ℚ) ^ (f.precision - 1) * 2 ^ f.lastExponent num den ≤ num / den := by
  have hp := h.precision
  calc
    _ = (2 : ℚ) ^ ((f.precision - 1 : Nat) + f.lastExponent num den : Int) := by
      rw [zpow_add₀ two_ne_zero, zpow_natCast]
    _ ≤ 2 ^ magnitude num den := by
      refine zpow_le_zpow_right₀ one_le_two ?_
      unfold lastExponent at he ⊢
      omega
    _ ≤ _ := (magnitude_spec hn hd).left

theorem scaled_lastExponent (num den : Nat) :
    ((scaled num den (f.lastExponent num den)).1 : ℚ) / (scaled num den (f.lastExponent num den)).2 *
      2 ^ f.lastExponent num den = num / den := by
  rw [scaled_eq, div_mul_cancel₀ _ (zpow_ne_zero _ two_ne_zero)]

theorem significand_le (hn : 0 < num) (hd : 0 < den) : f.significand num den ≤ 2 ^ f.precision := by
  have hs := scaled_pos num hd (f.lastExponent num den)
  have hl := div_lt_of_lastExponent (f := f) hn hd
  rw [← scaled_lastExponent (f := f), mul_lt_mul_iff_left₀ (zpow_pos two_pos _),
    div_lt_iff₀ (by exact_mod_cast hs)] at hl
  exact nearest_le (by exact_mod_cast hl.le) hs

theorem le_significand (h : f.IsRegular) (he : f.minExponent < f.lastExponent num den) (hn : 0 < num)
    (hd : 0 < den) : 2 ^ (f.precision - 1) ≤ f.significand num den := by
  have hs := scaled_pos num hd (f.lastExponent num den)
  have hl := le_div_of_lastExponent h he hn hd
  rw [← scaled_lastExponent (f := f), mul_le_mul_iff_left₀ (zpow_pos two_pos _),
    le_div_iff₀ (by exact_mod_cast hs)] at hl
  exact le_nearest (by exact_mod_cast hl) hs

-- Rounding leads as far as to the next power of two, and not below the last one.
theorem roundedValue_le (hn : 0 < num) (hd : 0 < den) :
    f.roundedValue num den ≤ 2 ^ f.precision * 2 ^ f.lastExponent num den := by
  have hs : (f.significand num den : ℚ) ≤ 2 ^ f.precision := by exact_mod_cast significand_le hn hd
  unfold roundedValue
  gcongr

theorem le_roundedValue (h : f.IsRegular) (he : f.minExponent < f.lastExponent num den) (hn : 0 < num)
    (hd : 0 < den) : (2 : ℚ) ^ (f.precision - 1) * 2 ^ f.lastExponent num den ≤ f.roundedValue num den := by
  have hs : (2 : ℚ) ^ (f.precision - 1) ≤ f.significand num den := by exact_mod_cast le_significand h he hn hd
  unfold roundedValue
  gcongr

-- An even significand is reached from halfway in front of it on.
theorem le_roundedValue_iff (h : f.IsRegular) (hn : 0 < num) (hd : 0 < den) (hk : k % 2 = 0)
    (hl : 2 ^ (f.precision - 1) < k) (hu : k ≤ 2 ^ f.precision) (he : f.minExponent ≤ e) :
    (k : ℚ) * 2 ^ e ≤ f.roundedValue num den ↔ ((k : ℚ) - 1 / 2) * 2 ^ e ≤ num / den := by
  obtain hlt | rfl | hgt := lt_trichotomy (f.lastExponent num den) e
  case inr.inl =>
    have hs := scaled_pos num hd (f.lastExponent num den)
    rw [roundedValue, mul_le_mul_iff_left₀ (zpow_pos two_pos _), Nat.cast_le, significand,
      le_nearest_iff_sub_half_le hk hs, ← mul_le_mul_iff_left₀ (zpow_pos two_pos (f.lastExponent num den)),
      scaled_lastExponent]
  case inl =>
    -- No significand is large enough for a smaller exponent.
    have hk : (2 : ℚ) ^ (f.precision - 1) + 1 ≤ k := by exact_mod_cast hl
    have hp := two_pow_precision_mul_le h hlt
    refine iff_of_false (not_le.mpr ?value) (not_le.mpr ?quotient)
    case value =>
      calc
        _ ≤ (2 : ℚ) ^ (f.precision - 1) * 2 ^ e := (roundedValue_le hn hd).trans hp
        _ < _ := by
          gcongr
          linarith
    case quotient =>
      calc
        _ < (2 : ℚ) ^ (f.precision - 1) * 2 ^ e := (div_lt_of_lastExponent hn hd).trans_le hp
        _ ≤ _ := by
          gcongr
          linarith
  case inr.inr =>
    -- With a greater exponent, all significands are.
    have hk : (k : ℚ) ≤ 2 ^ f.precision := by exact_mod_cast hu
    have hm := he.trans_lt hgt
    have hp : (k : ℚ) * 2 ^ e ≤ 2 ^ (f.precision - 1) * 2 ^ f.lastExponent num den := by
      calc
        _ ≤ (2 : ℚ) ^ f.precision * 2 ^ e := by gcongr
        _ ≤ _ := two_pow_precision_mul_le h hgt
    refine iff_of_true (hp.trans (le_roundedValue h hm hn hd)) (le_trans ?_ (le_div_of_lastExponent h hm hn hd))
    calc
      _ ≤ (k : ℚ) * 2 ^ e := by
        gcongr
        linarith
      _ ≤ _ := hp

theorem isInfinite_round_iff (h : f.IsRegular) (hn : 0 < num) (hd : 0 < den) :
    (f.round negative num den).isInfinite ↔ (2 : ℚ) ^ f.precision * 2 ^ f.maxExponent ≤ f.roundedValue num den := by
  rw [round_eq]
  split
  case isTrue hs =>
    have hs : (f.significand num den : ℚ) = 2 ^ f.precision := by exact_mod_cast hs
    rw [roundedValue, hs, mul_le_mul_iff_right₀ (pow_pos two_pos _), zpow_le_zpow_iff_right₀ one_lt_two]
    split <;> simp [Floating.isInfinite] <;> omega
  case isFalse hs =>
    split
    case isTrue he =>
      exact iff_of_true rfl <|
        (two_pow_precision_mul_le h he).trans (le_roundedValue h (h.exponents.trans_lt he) hn hd)
    case isFalse he =>
      have hl : (f.significand num den : ℚ) < 2 ^ f.precision := by
        exact_mod_cast lt_of_le_of_ne (significand_le hn hd) hs
      refine iff_of_false Bool.false_ne_true (not_le.mpr ?_)
      calc
        _ < (2 : ℚ) ^ f.precision * 2 ^ f.lastExponent num den := by
          unfold roundedValue
          gcongr
        _ ≤ _ := by
          gcongr
          · exact one_le_two
          · omega

-- A finite number is what a quotient has been rounded to.
theorem exists_round_eq (h : f.IsRegular) (hi : ¬(f.round negative num den).isInfinite) :
    ∃ m e, f.round negative num den = .finite negative m e ∧ (m : ℚ) * 2 ^ e = f.roundedValue num den := by
  rw [round_eq] at hi ⊢
  unfold roundedValue
  by_cases hs : f.significand num den = 2 ^ f.precision
  case pos =>
    rw [if_pos hs] at hi ⊢
    by_cases he : f.lastExponent num den + 1 > f.maxExponent
    case pos => exact absurd (by rw [if_pos he]; rfl) hi
    case neg =>
      refine ⟨_, _, if_neg he, ?_⟩
      rw [hs]
      push_cast
      exact (two_pow_precision_mul h _).symm
  case neg =>
    rw [if_neg hs] at hi ⊢
    by_cases he : f.lastExponent num den > f.maxExponent
    case pos => exact absurd (by rw [if_pos he]; rfl) hi
    case neg => exact ⟨_, _, if_neg he, rfl⟩

-- The least number that is too large for a format.
def limit (f : FloatFormat) : ℚ :=
  (2 ^ f.precision - 1 / 2) * 2 ^ f.maxExponent

theorem isInfinite_round_iff_limit_le (h : f.IsRegular) (hn : 0 < num) (hd : 0 < den) :
    (f.round negative num den).isInfinite ↔ f.limit ≤ num / den := by
  have he : (2 ^ f.precision) % 2 = 0 := by
    rw [← Nat.sub_add_cancel h.precision, pow_succ, Nat.mul_mod_left]
  have hl : 2 ^ (f.precision - 1) < 2 ^ f.precision :=
    Nat.pow_lt_pow_right (by decide) (Nat.sub_lt h.precision (by decide))
  rw [isInfinite_round_iff h hn hd, limit]
  exact_mod_cast le_roundedValue_iff h hn hd he hl (le_refl _) h.exponents

end Round

section Convert

variable {f : FloatFormat} {negative : Bool} {m : Nat} {e : Int}

-- A number of another format is a quotient of two integers.
theorem exists_convert_eq (f : FloatFormat) (negative : Bool) (e : Int) (hm : 0 < m) :
    ∃ num den : Nat, 0 < num ∧ 0 < den ∧ (num : ℚ) / den = m * 2 ^ e ∧
      f.convert (.finite negative m e) = f.round negative num den := by
  obtain ⟨m, rfl⟩ := Nat.exists_eq_add_of_le' hm
  unfold convert
  by_cases he : 0 ≤ e
  case pos =>
    obtain ⟨n, rfl⟩ := Int.eq_ofNat_of_zero_le he
    refine ⟨(m + 1) * 2 ^ n, 1, by positivity, Nat.one_pos, by simp, ?_⟩
    simp
  case neg =>
    obtain ⟨n, rfl⟩ := Int.exists_eq_neg_ofNat (Int.le_of_not_le he)
    refine ⟨m + 1, 2 ^ n, Nat.succ_pos m, by positivity, by simp [div_eq_mul_inv], ?_⟩
    have hn : n ≠ 0 := by
      rintro rfl
      exact he (by simp)
    simp [hn]

theorem limit_pos (f : FloatFormat) : 0 < f.limit := by
  have hp : (1 : ℚ) ≤ 2 ^ f.precision := one_le_pow₀ one_le_two
  exact mul_pos (by linarith) (zpow_pos two_pos _)

theorem isInfinite_convert_iff (h : f.IsRegular) :
    (f.convert (.finite negative m e)).isInfinite ↔ f.limit ≤ m * 2 ^ e := by
  by_cases hm : 0 < m
  case pos =>
    obtain ⟨num, den, hn, hd, hq, hc⟩ := exists_convert_eq f negative e hm
    rw [hc, isInfinite_round_iff_limit_le h hn hd, hq]
  case neg =>
    obtain rfl := Nat.eq_zero_of_not_pos hm
    exact iff_of_false Bool.false_ne_true (by simpa using f.limit_pos)

end Convert

section Formats

variable {negative : Bool} {num den : Nat}

theorem isRegular_double : double.IsRegular :=
  ⟨by decide, by decide⟩

theorem isRegular_single : single.IsRegular :=
  ⟨by decide, by decide⟩

theorem limit_double : double.limit = 2 ^ 1024 - 2 ^ 970 := by
  calc
    _ = (2 ^ 53 - 1 / 2) * (2 : ℚ) ^ 971 := by rw [limit, ← zpow_natCast]; rfl
    _ = (2 ^ 53 - 1 / 2) * (2 ^ 970 * 2) := by rw [pow_succ 2 970]
    _ = 2 ^ 970 * 2 ^ 54 - 2 ^ 970 := by
      generalize (2 : ℚ) ^ 970 = x
      ring
    _ = _ := by rw [← pow_add]

-- Half a unit of double precision below the least number that is too large for single precision, that number is what
-- is rounded to. Its significand is even in double precision.
theorem isInfinite_single_double_iff (hn : 0 < num) (hd : 0 < den) :
    (single.convert (double.round negative num den)).isInfinite ↔ (2 : ℚ) ^ 128 - 2 ^ 103 - 2 ^ 74 ≤ num / den := by
  have hk : (((2 ^ 25 - 1) * 2 ^ 28 : Nat) - 1 / 2 : ℚ) * 2 ^ (75 : Int) = 2 ^ 128 - 2 ^ 103 - 2 ^ 74 := by norm_num
  by_cases hi : (double.round negative num den).isInfinite
  case pos =>
    have hl := (isInfinite_round_iff_limit_le isRegular_double hn hd).mp hi
    refine iff_of_true ?_ (le_trans ?_ hl)
    case refine_1 =>
      cases hx : double.round negative num den <;> rw [hx] at hi
      case infinite => rfl
      all_goals cases hi
    case refine_2 =>
      have he : (2 : ℚ) ^ (128 : Int) ≤ 2 ^ double.maxExponent := zpow_le_zpow_right₀ one_le_two (by decide)
      have hp : (1 : ℚ) ≤ 2 ^ double.precision - 1 / 2 := by norm_num [double]
      calc
        _ ≤ (1 : ℚ) * 2 ^ (128 : Int) := by norm_num
        _ ≤ double.limit := mul_le_mul hp he (zpow_pos two_pos _).le (zero_le_one.trans hp)
  case neg =>
    obtain ⟨m, e, hx, hv⟩ := exists_round_eq isRegular_double hi
    have hs : single.limit = ((2 ^ 25 - 1) * 2 ^ 28 : Nat) * 2 ^ (75 : Int) := by norm_num [limit, single]
    rw [hx, isInfinite_convert_iff isRegular_single, hv, hs, ← hk]
    exact le_roundedValue_iff isRegular_double hn hd (by norm_num) (by norm_num [double]) (by norm_num [double])
      (by decide)

end Formats

end EnvConfig.FloatFormat
