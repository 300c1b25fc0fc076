import EnvConfig.Proofs.Durations
import Mathlib.Algebra.Order.BigOperators.Group.List
import Mathlib.Algebra.Order.Floor.Semifield
import Mathlib.Data.Rat.Floor
import Mathlib.Tactic.Ring

-- How precise a duration is. Of each term, less than a nanosecond is lost, but for terms in minutes or hours
-- with more decimals than are read: of these, one nanosecond more can be lost.

namespace EnvConfig.Duration

namespace Term

-- The nanoseconds of a term with all of its decimals.
def exact (t : Term) : ℚ :=
  (Nat.ofDigitChars 10 t.whole 0 + Nat.ofDigitChars 10 t.decimals 0 / 10 ^ t.decimals.length) * t.scale

-- The decimals that do not count.
def dropped (t : Term) : List Char :=
  t.decimals.drop 18

-- What the dropped decimals are worth, in units of the last one that counts.
def excess (t : Term) : Nat :=
  Nat.ofDigitChars 10 t.dropped 0 * t.scale / 10 ^ t.dropped.length

def mayFallShort (t : Term) : Bool :=
  18 < t.decimals.length && (t.unit = "m" || t.unit = "h")

end Term

-- The terms of a text without a sign. A zero that stands alone has none.
inductive HasTerms : List Char → List Term → Prop
  | zero : HasTerms ['0'] []
  | terms {ts} : ts ≠ [] → HasTerms (ts.flatMap Term.text) ts

-- The terms of a text with at most one sign in front.
def HasSignedTerms (s : List Char) (ts : List Term) : Prop :=
  ∃ u, (s = u ∨ s = '+' :: u ∨ s = '-' :: u) ∧ HasTerms u ts

-- How far a number of nanoseconds is from what terms stand for.
structure IsPrecise (ts : List Term) (n : Nat) : Prop where
  lower : (ts.map (⌊·.exact⌋₊)).sum ≤ n + ts.countP (·.mayFallShort)
  upper : n ≤ (ts.map (⌊·.exact⌋₊)).sum
  equal : ((∀ t ∈ ts, t.decimals.length ≤ 18) ∨ ∀ t ∈ ts, t.unit ≠ "m" ∧ t.unit ≠ "h") →
    n = (ts.map (⌊·.exact⌋₊)).sum

namespace Term

variable {t t' : Term}

theorem ext_text (hc : t.component = t'.component) (ht : t.text = t'.text) : t = t' := by
  obtain ⟨hw, hf, hu⟩ : t.whole = t'.whole ∧ t.decimals = t'.decimals ∧ t.unit.toList = t'.unit.toList := by
    simpa [component] using hc
  have hu : t.unit = t'.unit := String.toList_inj.mp hu
  have hs : t.scale = t'.scale := by
    have h := unit?_eq_some.mpr <| (String.ofList_toList (s := t.unit)).symm ▸ t.unit_mem
    have h' := unit?_eq_some.mpr <| (String.ofList_toList (s := t'.unit)).symm ▸ t'.unit_mem
    exact Option.some.inj <| h.symm.trans (hu ▸ h')
  have hd : t.decimals? = t'.decimals? := by
    simp only [text, hw, hu, List.append_cancel_left_eq, List.append_cancel_right_eq] at ht
    cases hd : t.decimals? <;> cases hd' : t'.decimals? <;> simp [hd, hd'] at ht ⊢
    exact ht
  cases t
  cases t'
  simp_all

-- A term ends where its text does, whatever terms follow.
theorem flatMap_text_injective {ts ts' : List Term} (h : ts.flatMap text = ts'.flatMap text) : ts = ts' := by
  induction ts generalizing ts'
  case nil =>
    cases ts'
    case nil => rfl
    case cons t' ts' => simp [t'.text_ne_nil] at h
  case cons t ts hi =>
    cases ts'
    case nil => simp [t.text_ne_nil] at h
    case cons t' ts' =>
      simp only [List.flatMap_cons] at h
      have hs : Component.split? (t.text ++ ts.flatMap text) = _ := split?_text isUnitEnd_of_head?_flatMap
      rw [h, split?_text isUnitEnd_of_head?_flatMap, Option.some.injEq, Prod.mk.injEq] at hs
      obtain ⟨hc, hr⟩ := hs
      rw [hr] at h
      rw [ext_text hc.symm (List.append_cancel_right h), hi hr.symm]

end Term

theorem HasTerms.spells {u : List Char} {ts : List Term} (h : HasTerms u ts) :
    Spells u (ts.map Term.nanos).sum := by
  cases h
  case zero => exact .zero
  case terms h => exact .terms h

theorem Spells.exists_terms {u : List Char} {n : Nat} (h : Spells u n) :
    ∃ ts, HasTerms u ts ∧ n = (ts.map Term.nanos).sum := by
  cases h
  case zero => exact ⟨[], .zero, rfl⟩
  case terms ts h => exact ⟨ts, .terms h, rfl⟩

theorem HasTerms.unique {u : List Char} {ts ts' : List Term} (h : HasTerms u ts) (h' : HasTerms u ts') :
    ts = ts' := by
  generalize hu : u = u' at h'
  cases h <;> cases h'
  case zero.zero => rfl
  case zero.terms => exact absurd hu.symm (flatMap_text_ne_zero _)
  case terms.zero => exact absurd hu (flatMap_text_ne_zero _)
  case terms.terms => exact Term.flatMap_text_injective hu

theorem HasSignedTerms.withoutSign {s : List Char} {ts : List Term} (h : HasSignedTerms s ts) :
    HasTerms (withoutSign s) ts := by
  obtain ⟨u, hs, hu⟩ := h
  obtain ⟨he, hp⟩ := withoutSign_of_spells hu.spells
  obtain rfl | rfl | rfl := hs
  case inl => exact he.symm ▸ hu
  case inr.inl => exact hp.symm ▸ hu
  case inr.inr => exact hu

theorem hasSignedTerms_iff {s : List Char} {ts : List Term} :
    HasSignedTerms s ts ↔ HasTerms (Duration.withoutSign s) ts := by
  refine ⟨HasSignedTerms.withoutSign, fun h => ⟨_, ?_, h⟩⟩
  obtain hs | ⟨-, hs | hs⟩ := withoutSign_cases s
  case inl => exact .inr (.inr hs)
  case inr.inl => exact .inl hs
  case inr.inr => exact .inr (.inl hs)

theorem ofDigitChars_lt {ds : List Char} (h : ∀ c ∈ ds, c.isDigit) :
    Nat.ofDigitChars 10 ds 0 < 10 ^ ds.length := by
  induction ds
  case nil => simp
  case cons c ds hi =>
    obtain ⟨hc, hds⟩ := List.forall_mem_cons.mp h
    have hd : 10 * 0 + (c.toNat - '0'.toNat) ≤ 9 := (Nat.zero_add _).trans_le (digit_le hc)
    rw [Nat.ofDigitChars_cons, Nat.ofDigitChars_eq_ofDigitChars_zero, List.length_cons, Nat.pow_succ]
    calc
      _ < 10 ^ ds.length * (10 * 0 + (c.toNat - '0'.toNat)) + 10 ^ ds.length := by have := hi hds; omega
      _ ≤ 10 ^ ds.length * 9 + 10 ^ ds.length := Nat.add_le_add_right (Nat.mul_le_mul_left _ hd) _
      _ = _ := by ring

namespace Term

variable (t : Term)

theorem number_decimals : Nat.ofDigitChars 10 t.decimals 0 =
    Nat.ofDigitChars 10 t.counted 0 * 10 ^ t.dropped.length + Nat.ofDigitChars 10 t.dropped 0 := by
  have h : t.decimals = t.counted ++ t.dropped := (List.take_append_drop 18 _).symm
  rw [h, Nat.ofDigitChars_append, Nat.ofDigitChars_eq_ofDigitChars_zero, Nat.mul_comm]

theorem length_decimals : t.decimals.length = t.counted.length + t.dropped.length := by
  rw [← List.length_append, counted, dropped, List.take_append_drop]

theorem isDigit_of_mem_decimals : ∀ c ∈ t.decimals, c.isDigit := by
  intro c hc
  cases hd : t.decimals?
  case none => simp [decimals, hd] at hc
  case some ds => exact t.decimals_isDigit ds hd c (by simpa [decimals, hd] using hc)

theorem isDigit_of_mem_dropped : ∀ c ∈ t.dropped, c.isDigit :=
  fun c hc => t.isDigit_of_mem_decimals c (List.mem_of_mem_drop hc)

theorem excess_lt : t.excess < t.scale := by
  have hp : 0 < 10 ^ t.dropped.length := Nat.pow_pos (by decide)
  rw [excess, Nat.div_lt_iff_lt_mul hp, Nat.mul_comm t.scale]
  exact Nat.mul_lt_mul_of_pos_right (ofDigitChars_lt t.isDigit_of_mem_dropped) (scale_pos t.unit_mem)

-- The whole nanoseconds of a term are those that are read and those that the dropped decimals may add.
theorem floor_exact : ⌊t.exact⌋₊ = Nat.ofDigitChars 10 t.whole 0 * t.scale +
    (Nat.ofDigitChars 10 t.counted 0 * t.scale + t.excess) / 10 ^ t.counted.length := by
  have he : t.exact = ((Nat.ofDigitChars 10 t.decimals 0 * t.scale : Nat) : ℚ) / (10 ^ t.decimals.length : Nat) +
      (Nat.ofDigitChars 10 t.whole 0 * t.scale : Nat) := by
    push_cast [exact]
    ring
  have hp : 0 < 10 ^ t.dropped.length := Nat.pow_pos (by decide)
  have hm : Nat.ofDigitChars 10 t.decimals 0 * t.scale = Nat.ofDigitChars 10 t.dropped 0 * t.scale +
      Nat.ofDigitChars 10 t.counted 0 * t.scale * 10 ^ t.dropped.length := by
    rw [number_decimals]
    ring
  calc
    _ = Nat.ofDigitChars 10 t.decimals 0 * t.scale / 10 ^ t.decimals.length +
        Nat.ofDigitChars 10 t.whole 0 * t.scale := by
      rw [he, Nat.floor_add_natCast (by positivity), Nat.floor_div_eq_div]
    _ = _ := by
      rw [hm, length_decimals, Nat.pow_add, Nat.mul_comm (10 ^ t.counted.length), ← Nat.div_div_eq_div_mul,
        Nat.add_mul_div_right _ _ hp, excess, Nat.add_comm, Nat.add_comm (_ / _)]

theorem nanos_le_floor : t.nanos ≤ ⌊t.exact⌋₊ := by
  rw [floor_exact, nanos]
  exact Nat.add_le_add_left (Nat.div_le_div_right (Nat.le_add_right ..)) _

variable {t}

theorem floor_eq_of_excess_eq_zero (h : t.excess = 0) : ⌊t.exact⌋₊ = t.nanos := by
  rw [floor_exact, nanos, h, Nat.add_zero]

theorem excess_eq_zero (h : t.decimals.length ≤ 18) : t.excess = 0 := by
  have hd : t.dropped = [] := List.drop_eq_nil_of_le h
  simp [excess, hd]

theorem length_counted (h : 18 < t.decimals.length) : t.counted.length = 18 :=
  List.length_take_of_le (Nat.le_of_lt h)

theorem scale_dvd (hm : t.unit ≠ "m") (hh : t.unit ≠ "h") : t.scale ∣ 10 ^ 18 := by
  have hs : ∀ u ∈ units, u.1 ≠ "m" → u.1 ≠ "h" → u.2 ∣ 10 ^ 18 := by decide
  exact hs _ t.unit_mem hm hh

-- If a nanosecond is a number of places of the last decimal that counts, the dropped ones cannot fill one.
theorem floor_eq_of_dvd (hd : t.scale ∣ 10 ^ t.counted.length) : ⌊t.exact⌋₊ = t.nanos := by
  obtain ⟨k, hk⟩ := hd
  have hp := scale_pos t.unit_mem
  have hm (n : Nat) : n / (t.scale * k) = n / t.scale / k := (Nat.div_div_eq_div_mul ..).symm
  rw [floor_exact, nanos, hk, hm, hm, Nat.add_comm (_ * _) t.excess, Nat.add_mul_div_right _ _ hp,
    Nat.div_eq_of_lt t.excess_lt, Nat.zero_add, Nat.mul_div_cancel _ hp]

theorem floor_eq_nanos (h : ¬t.mayFallShort) : ⌊t.exact⌋₊ = t.nanos := by
  by_cases hl : 18 < t.decimals.length
  case pos =>
    obtain ⟨hm, hh⟩ : t.unit ≠ "m" ∧ t.unit ≠ "h" := by simpa [mayFallShort, hl] using h
    exact floor_eq_of_dvd <| (length_counted hl).symm ▸ scale_dvd hm hh
  case neg => exact floor_eq_of_excess_eq_zero (excess_eq_zero (Nat.le_of_not_lt hl))

-- The dropped decimals are worth less than the last nanosecond, so they can fill one at most.
theorem floor_le_nanos_add_one : ⌊t.exact⌋₊ ≤ t.nanos + 1 := by
  by_cases hl : 18 < t.decimals.length
  case pos =>
    have hx : t.excess ≤ 10 ^ 18 := Nat.le_of_lt (Nat.lt_of_lt_of_le t.excess_lt (scale_le t.unit_mem))
    rw [floor_exact, nanos, length_counted hl, Nat.add_assoc]
    refine Nat.add_le_add_left ?_ _
    calc
      _ ≤ (Nat.ofDigitChars 10 t.counted 0 * t.scale + 10 ^ 18) / 10 ^ 18 :=
        Nat.div_le_div_right (Nat.add_le_add_left hx _)
      _ = _ := Nat.add_div_right _ (by decide)
  case neg =>
    rw [floor_eq_of_excess_eq_zero (excess_eq_zero (Nat.le_of_not_lt hl))]
    exact Nat.le_succ _

theorem floor_le_nanos : ⌊t.exact⌋₊ ≤ t.nanos + if t.mayFallShort then 1 else 0 := by
  split
  case isTrue => exact floor_le_nanos_add_one
  case isFalse h => exact (floor_eq_nanos h).le

end Term

theorem isPrecise_nanos (ts : List Term) : IsPrecise ts (ts.map Term.nanos).sum where
  lower := by
    induction ts
    case nil => rfl
    case cons t ts hi =>
      have h := t.floor_le_nanos
      simp only [List.map_cons, List.sum_cons, List.countP_cons]
      omega
  upper := List.sum_le_sum fun t _ => t.nanos_le_floor
  equal h := by
    refine congrArg List.sum <| List.map_congr_left fun t ht => (Term.floor_eq_nanos ?_).symm
    obtain h | h := h
    case inl => simp [Term.mayFallShort, Nat.not_lt.mpr (h t ht)]
    case inr => simp [Term.mayFallShort, h t ht]

theorem precise_of_ofText? {s : List Char} {n : Nat} (h : ofText? s = some n) :
    (∃ ts, HasSignedTerms s ts) ∧ ∀ ts, HasSignedTerms s ts → IsPrecise ts n := by
  obtain ⟨-, hs, -⟩ := ofText?_eq_some.mp h
  obtain ⟨ts, hts, rfl⟩ := hs.exists_terms
  refine ⟨⟨ts, hasSignedTerms_iff.mpr hts⟩, fun ts' h' => ?_⟩
  obtain rfl := hts.unique h'.withoutSign
  exact isPrecise_nanos ts

-- The decimals of a minute that are read make less than a nanosecond, those that are written make one. So a
-- duration less than zero is read as zero.
theorem precise_belowZero : ofText? "-0.00000000001666666666666666667m".toList = some 0 ∧
    ∃ ts, HasSignedTerms "-0.00000000001666666666666666667m".toList ts ∧ IsPrecise ts 0 ∧
      (ts.map (⌊·.exact⌋₊)).sum = 1 := by
  have h : ofText? "-0.00000000001666666666666666667m".toList = some 0 := by decide
  let t : Term := {
    whole            := ['0']
    decimals?        := some "00000000001666666666666666667".toList
    unit             := "m"
    scale            := 60 * 1_000_000_000
    whole_isDigit    := List.all_eq_true.mp rfl
    decimals_isDigit := fun _ h => Option.some.inj h ▸ List.all_eq_true.mp (by decide)
    digits_ne_nil    := by decide
    unit_mem         := by decide }
  have ht : HasSignedTerms "-0.00000000001666666666666666667m".toList [t] :=
    ⟨[t].flatMap Term.text, .inr (.inr (by decide)), .terms (List.cons_ne_nil t [])⟩
  have hf : ⌊t.exact⌋₊ = 1 := t.floor_exact.trans (by decide)
  exact ⟨h, [t], ht, (precise_of_ofText? h).right [t] ht, by simp [hf]⟩

end EnvConfig.Duration
