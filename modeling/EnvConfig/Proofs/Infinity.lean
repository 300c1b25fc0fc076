import EnvConfig.Proofs.Integers
import EnvConfig.Proofs.Precision
import EnvConfig.Proofs.Rounding

-- A float is infinite only if its text says so. All other texts of numbers stand for the finite number that they are
-- rounded to, in the leaf's own format, or for none.

namespace EnvConfig

namespace Floating

-- A text behind one sign or none, and whether that is the negative one.
inductive IsSigned (s : List Char) : Bool → List Char → Prop
  | plain : IsSigned s false s
  | plus  : IsSigned s false ('+' :: s)
  | minus : IsSigned s true ('-' :: s)

def SpellsInfinity (negative : Bool) (t : List Char) : Prop :=
  ∃ name, IsSigned name negative t ∧ isInfinityName name

section Unsigned

variable {f : FloatFormat} {negative : Bool} {name s : List Char} {c : Char}

-- The first letter of a name of the infinite number.
theorem exists_head_of_isInfinityName (h : isInfinityName name) : ∃ c s, name = c :: s ∧ c.toLower = 'i' := by
  cases name
  case nil => cases h
  case cons c s =>
    rw [isInfinityName, Bool.or_eq_true, decide_eq_true_iff, decide_eq_true_iff] at h
    obtain h | h := h <;> exact ⟨c, s, rfl, (List.cons.inj h).left⟩

theorem not_isInfinityName_of_head (hc : c.toLower ≠ 'i') : isInfinityName (c :: s) = false := by
  refine Bool.eq_false_iff.mpr fun h => ?_
  obtain ⟨_, _, he, hi⟩ := exists_head_of_isInfinityName h
  exact hc ((List.cons.inj he).left ▸ hi)

theorem toLower_of_isDigit (h : c.isDigit) : c.toLower = c := by
  have ha : c.toNat < 128 := by
    rw [Char.isDigit_iff_toNat] at h
    exact Nat.lt_of_le_of_lt h.right (by decide)
  exact Text.of_ascii (p := fun c => c.isDigit → c.toLower = c) (by decide) ha h

-- What starts with no digit and no point is no number that is written in digits.
theorem notation?_of_head (hd : c.isDigit = false) (hp : c ≠ '.') : notation? (c :: s) = none := by
  simp [notation?, hd, hp]

theorem notation?_of_isInfinityName (h : isInfinityName name) : notation? name = none := by
  obtain ⟨c, s, rfl, hc⟩ := exists_head_of_isInfinityName h
  apply notation?_of_head
  case hd =>
    refine Bool.eq_false_iff.mpr fun hd => ?_
    rw [toLower_of_isDigit hd] at hc
    rw [hc] at hd
    cases hd
  case hp =>
    rintro rfl
    cases hc

theorem unsigned?_of_isInfinityName (h : isInfinityName name) :
    unsigned? f negative name = some (.infinite negative) := by
  rw [unsigned?, notation?_of_isInfinityName h]
  exact if_pos h

-- There is no second sign.
theorem unsigned?_of_sign (hc : c = '+' ∨ c = '-') : unsigned? f negative (c :: s) = none := by
  have hn : notation? (c :: s) = none := by
    obtain rfl | rfl := hc <;> exact notation?_of_head (by decide) (by decide)
  have hi : isInfinityName (c :: s) = false := by
    obtain rfl | rfl := hc <;> exact not_isInfinityName_of_head (by decide)
  have hm : asciiLower (c :: s) ≠ "nan".toList := by
    intro h
    have hm : c.toLower = 'n' := (List.cons.inj h).left
    obtain rfl | rfl := hc <;> cases hm
  rw [unsigned?, hn]
  simp only [named?, hi, hm, Bool.false_eq_true, if_false]

end Unsigned

section Signs

variable {f : FloatFormat} {negative : Bool} {name s t : List Char} {c : Char} {x : Floating}

-- What starts with no sign.
def IsBare (s : List Char) : Prop :=
  s.head? ≠ some '-' ∧ s.head? ≠ some '+'

theorem isBare_of_isInfinityName (h : isInfinityName name) : IsBare name := by
  obtain ⟨c, s, rfl, hc⟩ := exists_head_of_isInfinityName h
  constructor <;> rintro ⟨⟩ <;> cases hc

theorem isBare_of_unsigned? (h : unsigned? f negative s = some x) : IsBare s := by
  constructor
  all_goals
    intro hs
    obtain ⟨s, rfl⟩ := List.head?_eq_some_iff.mp hs
    rw [unsigned?_of_sign (by simp)] at h
    cases h

theorem ofText?_bare (h : IsBare s) : ofText? f s = unsigned? f false s := by
  unfold ofText?
  split
  case h_1 => simp [IsBare] at h
  case h_2 => simp [IsBare] at h
  case h_3 => rfl

theorem namesInfinity_bare (h : IsBare s) : namesInfinity s = isInfinityName s := by
  cases s
  case nil => rfl
  case cons c s =>
    have hc : c ≠ '-' ∧ c ≠ '+' := by simpa [IsBare] using h
    simp [namesInfinity, hc]

theorem namesInfinity_signed (hc : c = '+' ∨ c = '-') : namesInfinity (c :: s) = namesInfinity s := by
  simp [namesInfinity, hc]

theorem IsSigned.ofText? (h : IsSigned s negative t) (hb : IsBare s) : ofText? f t = unsigned? f negative s := by
  cases h
  case plain => exact ofText?_bare hb
  case plus => rfl
  case minus => rfl

theorem IsSigned.namesInfinity (h : IsSigned s negative t) (hb : IsBare s) : namesInfinity t = isInfinityName s := by
  rw [← namesInfinity_bare hb]
  cases h
  case plain => rfl
  case plus => exact namesInfinity_signed (.inl rfl)
  case minus => exact namesInfinity_signed (.inr rfl)

theorem ofText?_of_spellsInfinity (h : SpellsInfinity negative t) : ofText? f t = some (.infinite negative) := by
  obtain ⟨name, hs, hn⟩ := h
  rw [hs.ofText? (isBare_of_isInfinityName hn), unsigned?_of_isInfinityName hn]

-- A text that is read has at most one sign.
theorem exists_isSigned (h : ofText? f t = some x) : ∃ s negative, IsSigned s negative t ∧ IsBare s := by
  obtain ⟨s, rfl⟩ | ⟨s, rfl⟩ | hb := Decimal.sign_cases t
  case inl => exact ⟨s, _, .minus, isBare_of_unsigned? h⟩
  case inr.inl => exact ⟨s, _, .plus, isBare_of_unsigned? h⟩
  case inr.inr => exact ⟨t, _, .plain, hb⟩

-- Hence more of them may be left out of account.
theorem namesInfinity_iff (h : ofText? f t = some x) : namesInfinity t ↔ ∃ negative, SpellsInfinity negative t := by
  constructor
  case mp =>
    intro hn
    obtain ⟨s, negative, hs, hb⟩ := exists_isSigned h
    exact ⟨negative, s, hs, hs.namesInfinity hb ▸ hn⟩
  case mpr =>
    rintro ⟨negative, s, hs, hn⟩
    rw [hs.namesInfinity (isBare_of_isInfinityName hn), hn]

end Signs

namespace Notation

variable {f : FloatFormat} {negative : Bool} {n : Notation} {s ds : List Char} {c : Char}

-- The number that digits with a power of ten stand for.
def value (n : Notation) : ℚ :=
  Decimal.ofDigits n.digits * 10 ^ n.exponent

theorem ofDigits_dropWhile (ds : List Char) :
    Decimal.ofDigits (ds.dropWhile (· = '0')) = Decimal.ofDigits ds := by
  induction ds
  case nil => rfl
  case cons c ds hi =>
    rw [List.dropWhile_cons]
    split
    case isTrue h =>
      obtain rfl := of_decide_eq_true h
      exact hi
    case isFalse => rfl

theorem le_ofDigits (hc : c.isDigit) (hz : c ≠ '0') : 10 ^ ds.length ≤ Decimal.ofDigits (c :: ds) := by
  have hd : Decimal.ofDigits (c :: ds) = Nat.ofDigitChars 10 ds (10 * 0 + Decimal.digit c) := rfl
  have hp : 0 < Decimal.digit c := by
    rw [Char.isDigit_iff_toNat] at hc
    have hn : c.toNat ≠ '0'.toNat := fun h => hz (Char.toNat_inj.mp h)
    have h0 : '0'.toNat = 48 := rfl
    unfold Decimal.digit
    omega
  rw [hd, Nat.ofDigitChars_eq_ofDigitChars_zero]
  exact Nat.le_add_right_of_le (Nat.le_mul_of_pos_right _ (by omega))

-- How many digits there are behind the zeros in front says between which powers of ten a number is.
theorem bounds_of_dropWhile (h : ∀ c ∈ n.digits, c.isDigit) (hc : n.digits.dropWhile (· = '0') = c :: ds) :
    (10 : ℚ) ^ (ds.length + n.exponent) ≤ n.value ∧ n.value < 10 ^ (ds.length + 1 + n.exponent) := by
  have hm : ∀ d ∈ c :: ds, d.isDigit := fun d hd => h d ((List.dropWhile_sublist _).mem (hc ▸ hd))
  have hz : c ≠ '0' := by
    have h := List.head?_dropWhile_not (· = '0') n.digits
    simpa [hc] using h
  have hd : Decimal.ofDigits n.digits = Decimal.ofDigits (c :: ds) := by rw [← hc, ofDigits_dropWhile]
  have hl : 10 ^ ds.length ≤ Decimal.ofDigits n.digits := hd ▸ le_ofDigits (hm c List.mem_cons_self) hz
  have hu : Decimal.ofDigits n.digits < 10 ^ (ds.length + 1) := hd ▸ Duration.ofDigitChars_lt hm
  have hp : (0 : ℚ) < 10 ^ n.exponent := zpow_pos (by norm_num) _
  constructor
  case left =>
    rw [value, zpow_add₀ (by norm_num), zpow_natCast]
    gcongr
    exact_mod_cast hl
  case right =>
    rw [value, zpow_add₀ (by norm_num), ← Nat.cast_add_one, zpow_natCast]
    gcongr
    exact_mod_cast hu

-- The power of ten is a part of one of two integers, whose quotient is rounded.
theorem exists_round_eq (hp : 0 < Decimal.ofDigits n.digits) :
    ∃ num den : Nat, 0 < num ∧ 0 < den ∧ (num : ℚ) / den = n.value ∧
      (if 0 ≤ n.exponent then f.round negative (Decimal.ofDigits n.digits * Nat.pow 10 n.exponent.toNat) 1
        else f.round negative (Decimal.ofDigits n.digits) (Nat.pow 10 (-n.exponent).toNat)) =
        f.round negative num den := by
  split
  case isTrue he =>
    obtain ⟨k, hk⟩ := Int.eq_ofNat_of_zero_le he
    refine ⟨_, 1, Nat.mul_pos hp (Nat.pow_pos (by decide)), Nat.one_pos, ?_, rfl⟩
    simp [value, hk]
  case isFalse he =>
    obtain ⟨k, hk⟩ := Int.exists_eq_neg_ofNat (Int.le_of_not_le he)
    refine ⟨_, _, hp, Nat.pow_pos (by decide), ?_, rfl⟩
    simp [value, hk, div_eq_mul_inv]

-- Where a number is neither too small nor too large to be looked at, it is the quotient that is rounded.
theorem ofNotation_cases (h : ∀ c ∈ n.digits, c.isDigit) :
    ofNotation f negative n = f.zero negative ∧ n.value < 1 ∨
    ofNotation f negative n = .infinite negative ∧ 10 ^ 400 ≤ n.value ∨
    ∃ num den : Nat, 0 < num ∧ 0 < den ∧ (num : ℚ) / den = n.value ∧
      ofNotation f negative n = f.round negative num den := by
  have hv := ofDigits_dropWhile n.digits
  unfold ofNotation
  dsimp only
  cases hd : n.digits.dropWhile (· = '0')
  case nil =>
    have hz : n.value = 0 := by
      rw [value, ← hv, hd]
      exact zero_mul _
    exact .inl ⟨rfl, hz.trans_lt one_pos⟩
  case cons c ds =>
    obtain ⟨hl, hu⟩ := bounds_of_dropWhile h hd
    rw [hd] at hv
    rw [hv]
    by_cases hs : (ds.length + 1 : Int) + n.exponent < -400
    case pos =>
      refine .inl ⟨if_pos (by simpa [magnitudeLimit] using hs), hu.trans_le ?_⟩
      exact zpow_le_one_of_nonpos₀ (by norm_num) (by omega)
    case neg =>
      rw [if_neg (by simpa [magnitudeLimit] using hs)]
      by_cases hg : (ds.length + 1 : Int) + n.exponent > 400
      case pos =>
        refine .inr (.inl ⟨if_pos (by simpa [magnitudeLimit] using hg), le_trans ?_ hl⟩)
        rw [← zpow_natCast]
        exact zpow_le_zpow_right₀ (by norm_num) (by push_cast; omega)
      case neg =>
        have hp : 0 < n.value := lt_of_lt_of_le (zpow_pos (by norm_num) _) hl
        rw [if_neg (by simpa [magnitudeLimit] using hg)]
        exact .inr (.inr (exists_round_eq (by exact_mod_cast pos_of_mul_pos_left hp (zpow_pos (by norm_num) _).le)))

theorem isDigit_of_notation? (h : notation? s = some n) : ∀ c ∈ n.digits, c.isDigit := by
  refine List.all_eq_true.mp ?_
  unfold notation? at h
  dsimp only at h
  split at h
  all_goals
    split at h
    case isTrue => cases h
    case isFalse =>
      split at h
      case h_1 =>
        obtain rfl := Option.some.inj h
        simp
      case h_2 =>
        obtain ⟨-, h⟩ := Option.ite_none_right_eq_some.mp h
        obtain ⟨e, -, rfl⟩ := Option.map_eq_some_iff.mp h
        simp

end Notation
end Floating

namespace Primitive

variable {p : Primitive} {s t : List Char} {x y : Floating} {n : Floating.Notation} {negative : Bool} {num den : Nat}

-- The number that a float can hold for one of double precision.
def rounded (p : Primitive) (x : Floating) : Floating :=
  if p = .f32 then FloatFormat.single.convert x else x

def floatValue (p : Primitive) (x : Floating) : Value :=
  if p = .f32 then .single x else .double x

-- The least number that is too large for a float. Single precision is reached by way of double precision.
def overflow (p : Primitive) : ℚ :=
  if p = .f32 then 2 ^ 128 - 2 ^ 103 - 2 ^ 74 else 2 ^ 1024 - 2 ^ 970

theorem floatValue_inj (h : p.floatValue x = p.floatValue y) : x = y := by
  unfold floatValue at h
  split at h <;> cases h <;> rfl

theorem rounded_infinite : p.rounded (.infinite negative) = .infinite negative := by
  unfold rounded
  split <;> rfl

theorem isInfinite_rounded_zero : (p.rounded (FloatFormat.double.zero negative)).isInfinite = false := by
  unfold rounded
  split <;> rfl

theorem one_le_overflow : 1 ≤ p.overflow := by
  unfold overflow
  split
  case isTrue => norm_num
  case isFalse =>
    rw [pow_add _ 970 54, ← mul_sub_one]
    exact one_le_mul_of_one_le_of_one_le (one_le_pow₀ one_le_two) (by norm_num)

theorem overflow_le : p.overflow ≤ 10 ^ 400 := by
  have hp : (2 : ℚ) ^ 1024 ≤ 10 ^ 400 := by
    calc
      _ = ((2 : ℚ) ^ 128) ^ 8 := by rw [← pow_mul]
      _ ≤ (10 ^ 50) ^ 8 := pow_le_pow_left₀ (by positivity) (by norm_num) 8
      _ = _ := by rw [← pow_mul]
  unfold overflow
  split
  case isTrue =>
    calc
      _ ≤ (10 : ℚ) ^ 50 := by norm_num
      _ ≤ _ := pow_le_pow_right₀ (by norm_num) (by decide)
  case isFalse => exact (sub_le_self _ (by positivity)).trans hp

theorem isInfinite_rounded_round (hn : 0 < num) (hd : 0 < den) :
    (p.rounded (FloatFormat.double.round negative num den)).isInfinite ↔ p.overflow ≤ num / den := by
  unfold rounded overflow
  split
  case isTrue => exact FloatFormat.isInfinite_single_double_iff hn hd
  case isFalse =>
    rw [← FloatFormat.limit_double]
    exact FloatFormat.isInfinite_round_iff_limit_le FloatFormat.isRegular_double hn hd

theorem isInfinite_rounded_iff (negative : Bool) (h : ∀ c ∈ n.digits, c.isDigit) :
    (p.rounded (Floating.ofNotation .double negative n)).isInfinite ↔ p.overflow ≤ n.value := by
  obtain ⟨hx, hv⟩ | ⟨hx, hv⟩ | ⟨num, den, hn, hd, hv, hx⟩ := Floating.Notation.ofNotation_cases h <;> rw [hx]
  case inl =>
    refine iff_of_false ?_ (not_le.mpr (hv.trans_le one_le_overflow))
    simp [isInfinite_rounded_zero]
  case inr.inl => exact iff_of_true (by rw [rounded_infinite]; rfl) (overflow_le.trans hv)
  case inr.inr => rw [isInfinite_rounded_round hn hd, hv]

theorem parsing_read_float (hp : p = .f32 ∨ p = .f64) (t : List Char) :
    p.parsing.read t = (Floating.ofText? .double t).bind fun x =>
      if Value.finiteOrNamed t (p.rounded x) then some (p.floatValue (p.rounded x)) else none := by
  obtain rfl | rfl := hp <;> rfl

theorem parsing_read_infinite (hp : p = .f32 ∨ p = .f64) :
    p.parsing.read t = some (p.floatValue (.infinite negative)) ↔ Floating.SpellsInfinity negative t := by
  rw [parsing_read_float hp]
  constructor
  case mp =>
    intro h
    obtain ⟨x, hx, h⟩ := Option.bind_eq_some_iff.mp h
    obtain ⟨hf, hv⟩ := Option.ite_none_right_eq_some.mp h
    have hr : p.rounded x = .infinite negative := floatValue_inj (Option.some.inj hv)
    have hs : Floating.namesInfinity t := by simpa [hr, Value.finiteOrNamed, Floating.isInfinite] using hf
    obtain ⟨_, hs⟩ := (Floating.namesInfinity_iff hx).mp hs
    -- The sign of what has been read is the one that is spelled.
    obtain rfl := Option.some.inj (hx.symm.trans (Floating.ofText?_of_spellsInfinity hs))
    cases rounded_infinite.symm.trans hr
    exact hs
  case mpr =>
    intro h
    have hx := Floating.ofText?_of_spellsInfinity (f := .double) h
    have hn := (Floating.namesInfinity_iff hx).mpr ⟨_, h⟩
    rw [hx, Option.bind_some, rounded_infinite]
    simp [Value.finiteOrNamed, hn]

theorem parsing_read_other (hp : p = .f32 ∨ p = .f64) (hn : ∀ negative, ¬Floating.SpellsInfinity negative t)
    (hx : Floating.ofText? .double t = some x) :
    p.parsing.read t = if (p.rounded x).isInfinite then none else some (p.floatValue (p.rounded x)) := by
  have hn : Floating.namesInfinity t = false :=
    Bool.eq_false_iff.mpr fun h => ((Floating.namesInfinity_iff hx).mp h).elim hn
  rw [parsing_read_float hp, hx, Option.bind_some, Value.finiteOrNamed, hn, Bool.or_false]
  cases (p.rounded x).isInfinite <;> rfl

theorem parsing_read_decimal (hp : p = .f32 ∨ p = .f64) (hs : Floating.IsSigned s negative t)
    (hn : Floating.notation? s = some n) : p.parsing.read t = none ↔ p.overflow ≤ n.value := by
  have hu {f : FloatFormat} : Floating.unsigned? f negative s = some (Floating.ofNotation f negative n) := by
    rw [Floating.unsigned?, hn]
  have hb := Floating.isBare_of_unsigned? (hu (f := .double))
  have hx := (hs.ofText? hb).trans (hu (f := .double))
  have hi : ∀ negative, ¬Floating.SpellsInfinity negative t := by
    intro _ h
    have h := (Floating.namesInfinity_iff hx).mpr ⟨_, h⟩
    rw [hs.namesInfinity hb] at h
    cases hn.symm.trans (Floating.notation?_of_isInfinityName h)
  rw [parsing_read_other hp hi hx, ← isInfinite_rounded_iff negative (Floating.Notation.isDigit_of_notation? hn)]
  simp

theorem read_float (hp : p = .f32 ∨ p = .f64) (t : List Char) :
    (∀ negative, p.parsing.read t = some (p.floatValue (.infinite negative)) ↔
      Floating.SpellsInfinity negative t) ∧
    ((∀ negative, ¬Floating.SpellsInfinity negative t) → ∀ x, Floating.ofText? .double t = some x →
      p.parsing.read t = if (p.rounded x).isInfinite then none else some (p.floatValue (p.rounded x))) ∧
    (∀ negative s n, Floating.IsSigned s negative t → Floating.notation? s = some n →
      (p.parsing.read t = none ↔ p.overflow ≤ n.value)) ∧
    (Floating.ofText? .double t = none → p.parsing.read t = none) := by
  refine ⟨fun _ => parsing_read_infinite hp, fun hn _ hx => parsing_read_other hp hn hx,
    fun _ _ _ hs hn => parsing_read_decimal hp hs hn, fun h => ?_⟩
  rw [parsing_read_float hp, h, Option.bind_none]

-- A number with forty zeros is too large for single precision only.
theorem read_float_forty_zeros : (f32 = .f32 ∨ f32 = .f64) ∧ (f64 = .f32 ∨ f64 = .f64) ∧
    f32.parsing.read "1e40".toList = none ∧ f64.parsing.read "1e40".toList ≠ none ∧
    f64.parsing.read "1e400".toList = none ∧
    f32.parsing.read "-Infinity".toList = some (.single (.infinite true)) := by
  have h40 : Floating.notation? "1e40".toList = some ⟨['1'], 40⟩ := rfl
  have h400 : Floating.notation? "1e400".toList = some ⟨['1'], 400⟩ := rfl
  have hv (k : Nat) : (⟨['1'], k⟩ : Floating.Notation).value = 10 ^ k := by
    simp [Floating.Notation.value, Decimal.ofDigits, Decimal.digit]
  have hs : (2 : ℚ) ^ 128 - 2 ^ 103 - 2 ^ 74 ≤ 10 ^ 40 := by norm_num
  have hd : (10 : ℚ) ^ 40 < 2 ^ 1024 - 2 ^ 970 := by
    calc
      (10 : ℚ) ^ 40 < 2 ^ 250 := by norm_num
      _ ≤ 2 ^ 970 * 1 := by
        rw [mul_one]
        exact pow_le_pow_right₀ one_le_two (by decide)
      _ ≤ 2 ^ 970 * (2 ^ 54 - 1) := by
        gcongr
        norm_num
      _ = _ := by rw [mul_sub_one, ← pow_add]
  refine ⟨.inl rfl, .inr rfl, ?_, ?_, ?_, ?_⟩
  case refine_1 => exact ((read_float (.inl rfl) _).right.right.left _ _ _ .plain h40).mpr ((hv 40).symm ▸ hs)
  case refine_2 =>
    exact ((read_float (.inr rfl) _).right.right.left _ _ _ .plain h40).not.mpr ((hv 40).symm ▸ not_le.mpr hd)
  case refine_3 =>
    exact ((read_float (.inr rfl) _).right.right.left _ _ _ .plain h400).mpr ((hv 400).symm ▸ overflow_le)
  case refine_4 => exact ((read_float (.inl rfl) _).left true).mpr ⟨"Infinity".toList, .minus, rfl⟩

end Primitive
end EnvConfig
