import EnvConfig.Naming
import EnvConfig.Proofs.Scanning

-- Everything that names are made of is solid.

namespace EnvConfig

open Source Source.Scan

namespace Text

-- What can be seen of each character of ASCII is true of all of them.
theorem of_ascii {p : Char → Prop} (h : ∀ n < 128, p (Char.ofNat n)) {c : Char} (hc : c.toNat < 128) : p c :=
  Char.ofNat_toNat c ▸ h c.toNat hc

theorem isUpper_iff {c : Char} : c.isUpper ↔ 'A'.toNat ≤ c.toNat ∧ c.toNat ≤ 'Z'.toNat :=
  decide_eq_true_iff

theorem isLower_iff {c : Char} : c.isLower ↔ 'a'.toNat ≤ c.toNat ∧ c.toNat ≤ 'z'.toNat := by
  change (decide _ && decide _) = true ↔ _
  rw [Bool.and_eq_true, decide_eq_true_iff, decide_eq_true_iff]
  exact Iff.rfl

theorem isAlpha_iff {c : Char} : c.isAlpha ↔ c.isUpper ∨ c.isLower :=
  iff_of_eq (Bool.or_eq_true ..)

theorem ascii_of_isAlphanum {c : Char} (h : c.isAlphanum) : c.toNat < 128 := by
  simp only [Char.isAlphanum, Bool.or_eq_true, isAlpha_iff, isUpper_iff, isLower_iff, Char.isDigit_iff_toNat,
    Char.reduceToNat] at h
  omega

theorem isName_of_ascii {c : Char} : c.toNat < 128 →
    isNameStart c = (c.isAlpha || c == '_') ∧ isNameContinue c = (c.isAlphanum || c == '_') :=
  of_ascii (p := fun c => isNameStart c = (c.isAlpha || c == '_') ∧ isNameContinue c = (c.isAlphanum || c == '_'))
    (by decide)

theorem start_or_continue_of_isWord {s : List Char} {c : Char} (hs : isWord s) (hc : c ∈ s) :
    isNameStart c ∨ isNameContinue c := by
  cases s
  case nil => cases hc
  case cons d ds =>
    simp only [isWord, Bool.and_eq_true, List.all_eq_true] at hs
    cases hc
    case head => exact .inl hs.left
    case tail hc => exact .inr (hs.right c hc)

theorem CharRun.bounds {r : CharRun} {n : Nat} (h : r.contains n) : r.first ≤ n ∧ n ≤ r.last := by
  simp only [contains, Bool.and_eq_true, decide_eq_true_eq] at h
  exact h.left

namespace CharSet

theorem containsCode_cons {r : CharRun} {s : CharSet} {n : Nat} :
    containsCode (r :: s) n ↔ r.first ≤ n ∧ (r.contains n ∨ s.containsCode n) := by
  simp [containsCode]

-- Whether no run of one set overlaps a run of another. As both ascend, a run that ends before some run of
-- the one set starts is not needed for the runs behind that.
def isApart : CharSet → CharSet → Bool
  | [],     _ => true
  | r :: s, t =>
    let t := t.dropWhile (·.last < r.first)
    t.head?.all (r.last < ·.first) && isApart s t

theorem containsCode_dropWhile {t : CharSet} {first n : Nat} (hn : first ≤ n) (h : t.containsCode n) :
    containsCode (t.dropWhile (·.last < first)) n := by
  induction t
  case nil => cases h
  case cons q t hi =>
    by_cases hq : q.last < first
    case neg => simpa [hq] using h
    case pos =>
      cases (containsCode_cons.mp h).right
      case inl h => exact absurd (CharRun.bounds h).right (by omega)
      case inr h => simpa [hq] using hi h

theorem not_containsCode_of_isApart {s t : CharSet} {n : Nat} (ha : isApart s t) (h : s.containsCode n) :
    t.containsCode n = false := by
  refine Bool.eq_false_iff.mpr fun ht => ?_
  induction s generalizing t
  case nil => cases h
  case cons r s hi =>
    have ⟨hf, h⟩ := containsCode_cons.mp h
    have ht := containsCode_dropWhile hf ht
    simp only [isApart, Bool.and_eq_true] at ha
    cases h
    case inr h => exact hi ha.right h ht
    case inl h =>
      cases hd : t.dropWhile (·.last < r.first) <;> rw [hd] at ha ht
      case nil => cases ht
      case cons q _ =>
        have hl : r.last < q.first := by simpa using ha.left
        have hq := (containsCode_cons.mp ht).left
        have hr := (CharRun.bounds h).right
        omega

end CharSet
end Text

open Text

namespace Source.Scan.Solid

-- The characters besides white space that are not solid.
def hollow : CharSet := [
  ⟨0x28, 0x29, 1⟩, ⟨0x2F, 0x2F, 1⟩, ⟨0x5B, 0x5B, 1⟩, ⟨0x5D, 0x5D, 1⟩, ⟨0x7B, 0x7B, 1⟩, ⟨0x7D, 0x7D, 1⟩,
  ⟨0x200E, 0x200F, 1⟩, ⟨0xFEFF, 0xFEFF, 1⟩]

def isSolid (n : Nat) : Bool :=
  !blanks.containsCode n && !hollow.containsCode n

def allSolid (s : CharSet) : Bool :=
  s.isApart blanks && s.isApart hollow

theorem isSolid_of_allSolid {s : CharSet} {n : Nat} (hs : allSolid s) (h : s.containsCode n) :
    isSolid n := by
  simp only [allSolid, Bool.and_eq_true] at hs
  have hb := CharSet.not_containsCode_of_isApart hs.left h
  have hh := CharSet.not_containsCode_of_isApart hs.right h
  simp [isSolid, hb, hh]

theorem of_isSolid {c : Char} (h : isSolid c.toNat) : Solid c := by
  simp only [isSolid, Bool.and_eq_true, Bool.not_eq_true'] at h
  have hc {d : Char} (hd : hollow.contains d) : c ≠ d := by
    rintro rfl
    exact absurd (h.right.symm.trans hd) Bool.false_ne_true
  refine ⟨?space, hc (by decide), hc (by decide), ?opener, ?closer⟩
  case space =>
    have hb : isBlank c = false := h.left
    simp [isSpace, hb, hc (d := '\u200e') (by decide), hc (d := '\u200f') (by decide)]
  case opener =>
    unfold opener?
    split <;> first | rfl | exact absurd rfl (hc (by decide))
  case closer =>
    unfold closer?
    split <;> first | rfl | exact absurd rfl (hc (by decide))

theorem of_contains {s : CharSet} {c : Char} (hs : allSolid s) (h : s.contains c) : Solid c :=
  of_isSolid (isSolid_of_allSolid hs h)

theorem allSolid_sets :
    [Alphanumeric.numerals, Alphanumeric.letters, NameChar.continuers, NameChar.starts].all allSolid := by
  decide +kernel

theorem of_isNumeral {c : Char} : isNumeral c → Solid c :=
  of_contains <| List.all_eq_true.mp allSolid_sets _ (by simp)

theorem of_isLetter {c : Char} : isLetter c → Solid c :=
  of_contains <| List.all_eq_true.mp allSolid_sets _ (by simp)

theorem of_isNameContinue {c : Char} : isNameContinue c → Solid c :=
  of_contains <| List.all_eq_true.mp allSolid_sets _ (by simp)

theorem of_isNameStart {c : Char} (h : isNameStart c) : Solid c := by
  cases Bool.or_eq_true_iff.mp h
  case inl h => exact of_isSolid (beq_iff_eq.mp h ▸ by decide)
  case inr h => exact of_contains (List.all_eq_true.mp allSolid_sets _ (by simp)) h

theorem of_isWord {s : List Char} {c : Char} (hs : isWord s) (hc : c ∈ s) : Solid c :=
  (start_or_continue_of_isWord hs hc).elim of_isNameStart of_isNameContinue

end Source.Scan.Solid

namespace Text.LetterCase

variable {long : List (Nat × List Nat)} {shifts : List Shift} {c d x : Char}

-- What a character becomes is in its long form or in the run that it moves to, or it is the character.
theorem of_mem_apply (h : d ∈ apply long shifts c) :
    (∃ codes n, (c.toNat, codes) ∈ long ∧ n ∈ codes ∧ d = Char.ofNat n) ∨
      (∃ s ∈ shifts, s.run.contains c.toNat ∧ d = Char.ofNat (c.toNat + s.dist).toNat) ∨ d = c := by
  unfold apply at h
  split at h
  case h_1 codes he =>
    obtain ⟨n, hn, rfl⟩ := List.mem_map.mp h
    have ⟨_, _, he, _⟩ := List.lookup_eq_some_iff.mp he
    exact .inl ⟨codes, n, by simp [he], hn, rfl⟩
  case h_2 =>
    split at h
    case h_1 s he =>
      have hr : s.run.contains c.toNat := by simpa using List.find?_some he
      exact .inr <| .inl ⟨s, List.mem_of_find?_eq_some he, hr, List.mem_singleton.mp h⟩
    case h_2 => exact .inr <| .inr <| List.mem_singleton.mp h

-- Where the characters of a run move to.
def target (s : Shift) : CharSet :=
  [⟨(s.run.first + s.dist).toNat, (s.run.last + s.dist).toNat, 1⟩]

theorem target_containsCode {s : Shift} {n : Nat} (h : s.run.contains n) :
    (target s).containsCode (n + s.dist).toNat := by
  have ⟨hf, hl⟩ := CharRun.bounds h
  have hf : (s.run.first + s.dist).toNat ≤ (n + s.dist).toNat := by omega
  have hl : (n + s.dist).toNat ≤ (s.run.last + s.dist).toNat := by omega
  refine CharSet.containsCode_cons.mpr ⟨hf, .inl ?_⟩
  simp only [CharRun.contains, hf, hl, decide_true, Nat.mod_one, beq_self_eq_true, Bool.and_self]

-- A number that is no character's stands for the character zero.
theorem ofNat_eq (n : Nat) : (Char.ofNat n).toNat = n ∨ Char.ofNat n = Char.ofNat 0 := by
  by_cases hn : n.isValidChar
  case pos =>
    have he : Char.ofNat n = Char.ofNatAux n hn := dif_pos hn
    exact .inl <| he ▸ rfl
  case neg => exact .inr <| dif_neg hn

-- Whether no character becomes the one with the given number when its case changes.
def avoids (long : List (Nat × List Nat)) (shifts : List Shift) (n : Nat) : Bool :=
  n != 0 && long.all (·.2.all (· != n)) && shifts.all fun s => !(target s).containsCode n

theorem ne_of_mem_apply (ha : avoids long shifts x.toNat) (hc : c ≠ x) (h : d ∈ apply long shifts c) :
    d ≠ x := by
  rintro rfl
  simp only [avoids, Bool.and_eq_true, bne_iff_ne, List.all_eq_true, Bool.not_eq_true'] at ha
  obtain ⟨⟨hz, hl⟩, hs⟩ := ha
  have hn {n : Nat} (h : d = Char.ofNat n) : d.toNat = n := by
    subst h
    exact (ofNat_eq n).resolve_right fun h => hz (h ▸ rfl)
  obtain ⟨codes, n, hm, hc, h⟩ | ⟨s, hm, hr, h⟩ | h := of_mem_apply h
  case inl => exact hl _ hm n hc (hn h).symm
  case inr.inl => exact Bool.false_ne_true ((hs s hm).symm.trans (hn h ▸ target_containsCode hr))
  case inr.inr => exact hc h.symm

end Text.LetterCase

namespace Source.Scan.Solid

open LetterCase

theorem of_isSolid_ofNat {n : Nat} (h : isSolid n) : Solid (Char.ofNat n) := by
  cases ofNat_eq n
  case inl he => exact of_isSolid (he.symm ▸ h)
  case inr he => exact he ▸ of_isSolid (by decide)

-- No letter becomes a character that is not solid when its case changes.
theorem of_mem_apply {long : List (Nat × List Nat)} {shifts : List Shift} {c d : Char}
    (hl : long.all (·.2.all isSolid)) (hs : shifts.all (allSolid <| target ·)) (hc : Solid c)
    (h : d ∈ LetterCase.apply long shifts c) : Solid d := by
  obtain ⟨codes, n, hm, hn, rfl⟩ | ⟨s, hm, hr, rfl⟩ | rfl := LetterCase.of_mem_apply h
  case inl => exact of_isSolid_ofNat (List.all_eq_true.mp (List.all_eq_true.mp hl _ hm) n hn)
  case inr.inl =>
    exact of_isSolid_ofNat (isSolid_of_allSolid (List.all_eq_true.mp hs s hm) (target_containsCode hr))
  case inr.inr => exact hc

theorem of_mem_toUpper {c d : Char} : Solid c → d ∈ toUpper c → Solid d :=
  of_mem_apply (by decide) (by decide)

theorem of_mem_toLower {c d : Char} : Solid c → d ∈ toLower c → Solid d :=
  of_mem_apply (by decide) (by decide)

end Source.Scan.Solid
end EnvConfig
