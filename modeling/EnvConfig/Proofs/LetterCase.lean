import EnvConfig.Proofs.NameChars
import Mathlib.Algebra.Ring.Nat

-- What a change of case keeps: a character of an identifier stays one, a letter in upper case begins with a
-- letter, and there is nothing left to change in it. The tables are long, so that sets of characters are compared
-- as numbers: each character is the place of a bit.

namespace EnvConfig.Text

section Bits

variable {m k n : Nat}

theorem testBit_of_and_eq (h : m &&& k = m) (hn : m.testBit n) : k.testBit n := by
  rw [← h, Nat.testBit_and, Bool.and_eq_true] at hn
  exact hn.right

theorem not_testBit_of_and_eq_zero (h : m &&& k = 0) (hn : m.testBit n) : k.testBit n = false := by
  have hb := congrArg (·.testBit n) h
  simpa [Nat.testBit_and, hn] using hb

theorem testBit_foldr_or {α : Type} {f : α → Nat} {as : List α} :
    (as.foldr (fun a m => f a ||| m) 0).testBit n ↔ ∃ a ∈ as, (f a).testBit n := by
  induction as
  case nil => simp
  case cons a as hi => simp only [List.foldr_cons, Nat.testBit_or, Bool.or_eq_true, hi, List.exists_mem_cons_iff]

end Bits

namespace CharRun

variable {r : CharRun} {n : Nat}

theorem contains_iff : r.contains n ↔ r.first ≤ n ∧ n ≤ r.last ∧ (n - r.first) % r.step = 0 := by
  simp [contains, and_assoc]

def single (n : Nat) : CharRun where
  first := n
  last  := n
  step  := 1

theorem contains_single : (single n).contains n := by
  simp [contains, single]

-- A run without gaps can have very many characters.
def mask (r : CharRun) : Nat :=
  if r.step = 1 then
    (2 ^ (r.last + 1 - r.first) - 1) <<< r.first
  else if r.first ≤ r.last then
    (List.range' r.first ((r.last - r.first) / r.step + 1) r.step).foldr (fun n m => 2 ^ n ||| m) 0
  else
    0

theorem mem_range'_iff (h : r.first ≤ r.last) :
    n ∈ List.range' r.first ((r.last - r.first) / r.step + 1) r.step ↔ r.contains n := by
  rw [List.mem_range', contains_iff]
  constructor
  case mp =>
    rintro ⟨i, hi, rfl⟩
    have hm := Nat.mul_le_mul_left r.step (Nat.le_of_lt_succ hi)
    have hd := Nat.mul_div_le (r.last - r.first) r.step
    exact ⟨Nat.le_add_right .., by omega, by rw [Nat.add_sub_cancel_left, Nat.mul_mod_right]⟩
  case mpr =>
    rintro ⟨hf, hl, hs⟩
    have hd := Nat.div_le_div_right (c := r.step) (Nat.sub_le_sub_right hl r.first)
    have hm := Nat.mul_div_cancel' (Nat.dvd_of_mod_eq_zero hs)
    exact ⟨(n - r.first) / r.step, by omega, by omega⟩

theorem testBit_mask : r.mask.testBit n ↔ r.contains n := by
  unfold mask
  split
  case isTrue hs =>
    rw [Nat.testBit_shiftLeft, Nat.testBit_two_pow_sub_one, contains_iff, hs]
    simp only [Bool.and_eq_true, decide_eq_true_eq, Nat.mod_one, and_true]
    omega
  case isFalse =>
    split
    case isTrue h => simp [testBit_foldr_or, Nat.testBit_two_pow, ← mem_range'_iff h]
    case isFalse h =>
      rw [contains_iff, Nat.zero_testBit]
      exact iff_of_false nofun (by omega)

-- All characters of a run are ones.
def isValid (r : CharRun) : Bool :=
  r.last < 0xD800 || (0xDFFF < r.first && r.last < 0x110000)

theorem toNat_ofNat_of_isValid (hr : r.isValid) (h : r.contains n) : (Char.ofNat n).toNat = n := by
  have ⟨hf, hl⟩ := bounds h
  have hn : n.isValidChar := by
    simp only [isValid, Bool.or_eq_true, Bool.and_eq_true, decide_eq_true_eq] at hr
    unfold Nat.isValidChar
    omega
  rw [show Char.ofNat n = Char.ofNatAux n hn from dif_pos hn]
  rfl

end CharRun

namespace CharSet

variable {s t : CharSet} {n : Nat}

def mask (s : CharSet) : Nat :=
  s.foldr (fun r m => r.mask ||| m) 0

theorem testBit_mask : s.mask.testBit n ↔ ∃ r ∈ s, r.contains n := by
  simp only [mask, testBit_foldr_or, CharRun.testBit_mask]

theorem testBit_of_containsCode (h : s.containsCode n) : s.mask.testBit n := by
  induction s
  case nil => cases h
  case cons r s hi =>
    rw [testBit_mask, List.exists_mem_cons_iff]
    exact (containsCode_cons.mp h).right.imp_right fun h => testBit_mask.mp (hi h)

-- Whether a table is fit to be searched: no run starts before one in front of it, and all are runs of characters.
def isTable (s : CharSet) : Bool :=
  (s.zip s.tail).all (fun (r, q) => Nat.ble r.first q.first) && s.all (·.isValid)

theorem containsCode_of_mem (hs : (s.zip s.tail).all fun (r, q) => Nat.ble r.first q.first) {q : CharRun} (hq : q ∈ s)
    (h : q.contains n) : s.containsCode n := by
  suffices hn : s.containsCode n ∧ ∀ r ∈ s.head?, r.first ≤ n from hn.left
  induction s
  case nil => cases hq
  case cons r s hi =>
    cases hq
    case head =>
      have hf := (CharRun.bounds h).left
      exact ⟨containsCode_cons.mpr ⟨hf, .inl h⟩, by simpa using hf⟩
    case tail hq =>
      cases s
      case nil => cases hq
      case cons q' s =>
        simp only [List.tail_cons, List.zip_cons_cons, List.all_cons, Bool.and_eq_true, Nat.ble_eq] at hs
        have ⟨hc, hf⟩ := hi hs.right hq
        have hf : r.first ≤ n := Nat.le_trans hs.left (hf q' rfl)
        exact ⟨containsCode_cons.mpr ⟨hf, .inr hc⟩, by simpa using hf⟩

theorem contains_of_testBit (ht : t.isTable) (h : t.mask.testBit n) : t.contains (.ofNat n) := by
  simp only [isTable, Bool.and_eq_true] at ht
  obtain ⟨ha, hv⟩ := ht
  obtain ⟨q, hq, h⟩ := testBit_mask.mp h
  rw [contains, CharRun.toNat_ofNat_of_isValid (List.all_eq_true.mp hv q hq) h]
  exact containsCode_of_mem ha hq h

end CharSet

namespace LetterCase

variable {long : List (Nat × List Nat)} {shifts : List Shift} {t : CharSet} {c d : Char}

theorem apply_cases (long : List (Nat × List Nat)) (shifts : List Shift) (c : Char) :
    (∃ codes, (c.toNat, codes) ∈ long ∧ apply long shifts c = codes.map .ofNat) ∨
    (∃ s ∈ shifts, s.run.contains c.toNat ∧ apply long shifts c = [.ofNat (c.toNat + s.dist).toNat]) ∨
    apply long shifts c = [c] := by
  unfold apply
  split
  case h_1 codes he =>
    have ⟨_, _, he, _⟩ := List.lookup_eq_some_iff.mp he
    exact .inl ⟨codes, by simp [he], rfl⟩
  case h_2 =>
    split
    case h_1 s he => exact .inr <| .inl ⟨s, List.mem_of_find?_eq_some he, by simpa using List.find?_some he, rfl⟩
    case h_2 => exact .inr <| .inr rfl

-- The run that the characters of another one become.
def image (s : Shift) : CharRun where
  first := (s.run.first + s.dist).toNat
  last  := (s.run.last + s.dist).toNat
  step  := s.run.step

-- No character has a number below zero.
def isForward (s : Shift) : Bool :=
  (0 : Int) ≤ s.run.first + s.dist

theorem testBit_image {s : Shift} {n : Nat} (hs : isForward s) (h : s.run.contains n) :
    (image s).mask.testBit (n + s.dist).toNat := by
  obtain ⟨hf, hl, hr⟩ := CharRun.contains_iff.mp h
  have hs := of_decide_eq_true hs
  have he : (n + s.dist).toNat - (s.run.first + s.dist).toNat = n - s.run.first := by omega
  rw [CharRun.testBit_mask, CharRun.contains_iff]
  exact ⟨by simp only [image]; omega, by simp only [image]; omega, by simpa only [image, he]⟩

-- Whether all characters of a set stay in it.
def keeps (long : List (Nat × List Nat)) (shifts : List Shift) (t : CharSet) : Bool :=
  t.isTable && (long.all fun p => p.2.all fun n => t.mask.testBit n) &&
    shifts.all fun s => isForward s && ((image s).mask &&& t.mask == (image s).mask || s.run.mask &&& t.mask == 0)

theorem contains_of_mem_apply (hk : keeps long shifts t) (hc : t.contains c) (h : d ∈ apply long shifts c) :
    t.contains d := by
  simp only [keeps, Bool.and_eq_true, List.all_eq_true, Bool.or_eq_true, beq_iff_eq] at hk
  obtain ⟨⟨ht, hl⟩, hk⟩ := hk
  obtain ⟨codes, n, hm, hn, rfl⟩ | ⟨s, hm, hr, rfl⟩ | rfl := of_mem_apply h
  case inl => exact CharSet.contains_of_testBit ht (hl _ hm n hn)
  case inr.inl =>
    obtain ⟨hf, hs | hs⟩ := hk s hm
    case inl => exact CharSet.contains_of_testBit ht (testBit_of_and_eq hs (testBit_image hf hr))
    case inr =>
      have hb := not_testBit_of_and_eq_zero hs (CharRun.testBit_mask.mpr hr)
      exact absurd (hb.symm.trans (CharSet.testBit_of_containsCode hc)) Bool.false_ne_true
  case inr.inr => exact hc

-- Whether what a character of a set becomes begins with one of them.
def begins (long : List (Nat × List Nat)) (shifts : List Shift) (t : CharSet) : Bool :=
  t.isTable && (long.all fun p => p.2.head?.any fun n => t.mask.testBit n) &&
    shifts.all fun s => isForward s && (image s).mask &&& t.mask == (image s).mask

theorem exists_head_apply (hb : begins long shifts t) (hc : t.contains c) :
    ∃ d ds, apply long shifts c = d :: ds ∧ t.contains d := by
  simp only [begins, Bool.and_eq_true, List.all_eq_true, beq_iff_eq] at hb
  obtain ⟨⟨ht, hl⟩, hs⟩ := hb
  obtain ⟨codes, hm, h⟩ | ⟨s, hm, hr, h⟩ | h := apply_cases long shifts c
  case inl =>
    have hd := hl _ hm
    cases codes
    case nil => cases hd
    case cons n ns => exact ⟨_, _, h, CharSet.contains_of_testBit ht hd⟩
  case inr.inl =>
    obtain ⟨hf, hs⟩ := hs s hm
    exact ⟨_, [], h, CharSet.contains_of_testBit ht (testBit_of_and_eq hs (testBit_image hf hr))⟩
  case inr.inr => exact ⟨c, [], h, hc⟩

-- The characters that become others.
def sources (long : List (Nat × List Nat)) (shifts : List Shift) : CharSet :=
  long.map (.single ·.1) ++ shifts.map (·.run)

theorem apply_eq_self (h : (sources long shifts).mask.testBit c.toNat = false) : apply long shifts c = [c] := by
  have hs : ∀ r ∈ sources long shifts, ¬r.contains c.toNat := by
    intro r hr hc
    exact Bool.false_ne_true (h.symm.trans (CharSet.testBit_mask.mpr ⟨r, hr, hc⟩))
  obtain ⟨codes, hm, -⟩ | ⟨s, hm, hr, -⟩ | h := apply_cases long shifts c
  case inl => exact absurd CharRun.contains_single (hs _ (List.mem_append_left _ (List.mem_map.mpr ⟨_, hm, rfl⟩)))
  case inr.inl => exact absurd hr (hs _ (List.mem_append_right _ (List.mem_map.mpr ⟨s, hm, rfl⟩)))
  case inr.inr => exact h

-- What they become. A number that is no character's stands for the character zero.
def targets (long : List (Nat × List Nat)) (shifts : List Shift) : CharSet :=
  .single 0 :: (long.flatMap fun p => p.2.map .single) ++ shifts.map image

-- Whether, of the characters that others become, none is among those that change.
def settles (long : List (Nat × List Nat)) (shifts : List Shift) : Bool :=
  shifts.all isForward && (targets long shifts).mask &&& (sources long shifts).mask == 0

theorem apply_of_mem_apply (hs : settles long shifts) (h : d ∈ apply long shifts c) : apply long shifts d = [d] := by
  simp only [settles, Bool.and_eq_true, List.all_eq_true, beq_iff_eq] at hs
  obtain ⟨hf, hs⟩ := hs
  have htarget {n : Nat} (ht : ∃ r ∈ targets long shifts, r.contains n) :
      apply long shifts (.ofNat n) = [.ofNat n] := by
    refine apply_eq_self (not_testBit_of_and_eq_zero hs (CharSet.testBit_mask.mpr ?_))
    cases ofNat_eq n
    case inl he => exact he.symm ▸ ht
    case inr he => exact ⟨_, .head _, he ▸ CharRun.contains_single⟩
  obtain ⟨codes, hm, he⟩ | ⟨s, hm, hr, he⟩ | he := apply_cases long shifts c
  all_goals rw [he] at h
  case inl =>
    obtain ⟨n, hn, rfl⟩ := List.mem_map.mp h
    refine htarget ⟨.single n, ?_, CharRun.contains_single⟩
    simp only [targets, List.cons_append, List.mem_cons, List.mem_append, List.mem_flatMap, List.mem_map]
    exact .inr <| .inl ⟨_, hm, n, hn, rfl⟩
  case inr.inl =>
    obtain rfl := List.mem_singleton.mp h
    refine htarget ⟨image s, ?_, CharRun.testBit_mask.mp (testBit_image (hf s hm) hr)⟩
    simp only [targets, List.cons_append, List.mem_cons, List.mem_append, List.mem_map]
    exact .inr <| .inr ⟨s, hm, rfl⟩
  case inr.inr =>
    obtain rfl := List.mem_singleton.mp h
    exact he

end LetterCase

open LetterCase

theorem tables :
    (CharSet.mask NameChar.starts &&& CharSet.mask NameChar.continuers = CharSet.mask NameChar.starts) ∧
    isNameContinue '_' ∧
    keeps toUpperLong LetterCase.toUpper NameChar.continuers ∧
    keeps toLowerLong LetterCase.toLower NameChar.continuers ∧
    begins toUpperLong LetterCase.toUpper Alphanumeric.letters ∧ settles toUpperLong LetterCase.toUpper := by
  decide +kernel

variable {c d : Char}

theorem isNameContinue_of_isNameStart (h : isNameStart c) : isNameContinue c := by
  obtain ⟨hs, hu, hk, -⟩ := tables
  cases Bool.or_eq_true_iff.mp h
  case inl h => exact beq_iff_eq.mp h ▸ hu
  case inr h =>
    simp only [keeps, Bool.and_eq_true] at hk
    have hb := testBit_of_and_eq hs (CharSet.testBit_of_containsCode h)
    exact Char.ofNat_toNat c ▸ CharSet.contains_of_testBit hk.left.left hb

theorem isNameContinue_of_mem_toUpper (hc : isNameContinue c) (h : d ∈ toUpper c) : isNameContinue d :=
  contains_of_mem_apply tables.right.right.left hc h

theorem isNameContinue_of_mem_toLower (hc : isNameContinue c) (h : d ∈ toLower c) : isNameContinue d :=
  contains_of_mem_apply tables.right.right.right.left hc h

theorem exists_head_toUpper (hc : isLetter c) : ∃ d ds, toUpper c = d :: ds ∧ isLetter d :=
  exists_head_apply tables.right.right.right.right.left hc

-- What is in upper case stays as it is.
theorem toUpper_of_mem_toUpper (h : d ∈ toUpper c) : toUpper d = [d] :=
  apply_of_mem_apply tables.right.right.right.right.right h

end EnvConfig.Text
