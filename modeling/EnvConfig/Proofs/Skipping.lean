import EnvConfig.Source.Scan
import Mathlib.Data.List.Basic

-- What the readers take of lexemes that are no quoted texts: neither a slash nor a carriage return, so that
-- none of them gets into a comment or out of one.

namespace EnvConfig.Source.Scan

open Text

-- What follows some characters that are neither slashes nor carriage returns.
inductive Skipped : List Char → List Char → Prop
  | refl {s} : Skipped s s
  | cons {c s rest} : c ≠ '/' → c ≠ '\r' → Skipped s rest → Skipped (c :: s) rest

-- A reader that takes nothing else.
def Skips (r : Reader) : Prop :=
  ∀ {s rest}, r s = some rest → Skipped s rest

namespace Skipped

variable {c : Char} {s t rest : List Char}

theorem trans (h : Skipped s t) (h' : Skipped t rest) : Skipped s rest := by
  induction h
  case refl => exact h'
  case cons hc hr _ hi => exact .cons hc hr (hi h')

-- Characters of a class that holds neither.
theorem cons_of {p : Char → Bool} (hn : p '/' = false ∧ p '\r' = false) (hp : p c) (h : Skipped s rest) :
    Skipped (c :: s) rest := by
  refine cons ?_ ?_ h <;> rintro rfl <;> simp_all

theorem dropWhile {p : Char → Bool} (hn : p '/' = false ∧ p '\r' = false) : Skipped s (s.dropWhile p) := by
  induction s
  case nil => exact .refl
  case cons c s hi =>
    rw [List.dropWhile_cons]
    split
    case isTrue hp => exact cons_of hn hp hi
    case isFalse => exact .refl

theorem append {lead : List Char} (h : ∀ c ∈ lead, c ≠ '/' ∧ c ≠ '\r') : Skipped (lead ++ s) s := by
  induction lead
  case nil => exact .refl
  case cons c lead hi =>
    have ⟨hc, h⟩ := List.forall_mem_cons.mp h
    exact .cons hc.left hc.right (hi h)

end Skipped

namespace Skips

variable {s rest : List Char}

theorem splitName {word : List Char} (h : Scan.splitName s = some (word, rest)) : Skipped s rest := by
  cases s
  case nil => cases h
  case cons c s =>
    simp only [Scan.splitName, Option.ite_none_right_eq_some, Option.some.injEq, Prod.mk.injEq] at h
    obtain ⟨hc, _, rfl⟩ := h
    exact .cons_of (by decide) hc <| .dropWhile (by decide)

theorem suffix (s : List Char) : Skipped s (Scan.suffix s) := by
  unfold Scan.suffix name
  cases h : Scan.splitName s
  case none => exact .refl
  case some w => exact splitName h

theorem closeQuote : Skips closeQuote := by
  intro s rest h
  unfold Scan.closeQuote at h
  split at h
  case h_1 => exact Option.some.inj h ▸ .cons (by decide) (by decide) (suffix _)
  case h_2 => cases h

theorem isHex {c : Char} (hc : Scan.isHex c) (h : Skipped s rest) : Skipped (c :: s) rest :=
  .cons_of (by decide) hc h

theorem unicodeDigits {digits : List Char} {n : Nat} (h : Scan.unicodeDigits digits s = some (n, rest)) :
    Skipped s rest := by
  fun_induction Scan.unicodeDigits digits s
  case case2 => cases h; exact .cons (by decide) (by decide) .refl
  case case4 hi => exact .cons (by decide) (by decide) (hi h)
  case case5 hc hi => exact isHex (by simp_all) (hi h)
  all_goals cases h

theorem unicodeEscape {n : Nat} (h : Scan.unicodeEscape s = some (n, rest)) : Skipped s rest := by
  unfold Scan.unicodeEscape at h
  split at h
  case h_2 => cases h
  case h_1 =>
    split at h
    case h_2 => cases h
    case h_1 hd =>
      simp only [Option.ite_none_right_eq_some, Option.some.injEq, Prod.mk.injEq] at h
      exact .cons (by decide) (by decide) <| h.right.right ▸ unicodeDigits hd

theorem hexEscape (q : Quoted) : Skips q.hexEscape := by
  intro s rest h
  unfold Quoted.hexEscape at h
  split at h
  case h_2 => cases h
  case h_1 a b cs =>
    cases q <;> simp only [Option.ite_none_right_eq_some, Bool.and_eq_true, Option.some.injEq] at h
    case text =>
      obtain ⟨⟨ha, hb⟩, rfl⟩ := h
      exact .cons_of (p := fun c => '0' ≤ c && c ≤ '7') (by decide) (by simpa using ha) <|
        isHex hb .refl
    case bytes =>
      obtain ⟨⟨ha, hb⟩, rfl⟩ := h
      exact isHex ha <| isHex hb .refl
    case cText =>
      obtain ⟨⟨⟨ha, hb⟩, _⟩, rfl⟩ := h
      exact isHex ha <| isHex hb .refl

theorem escape (q : Quoted) : Skips q.escape := by
  intro s rest h
  unfold Quoted.escape at h
  split at h
  case h_1 => exact .cons (by decide) (by decide) <| hexEscape q h
  case h_2 =>
    split at h
    case h_1 hu => cases h; exact .cons (by decide) (by decide) <| unicodeEscape hu
    case h_2 hu =>
      simp only [Option.ite_none_left_eq_some, Option.some.injEq] at h
      exact .cons (by decide) (by decide) <| h.right ▸ unicodeEscape hu
    case h_3 => cases h
  case h_3 =>
    simp only [Option.ite_none_left_eq_some, Option.some.injEq] at h
    exact h.right ▸ .cons (by decide) (by decide) .refl
  case h_4 =>
    simp only [Option.ite_none_right_eq_some, Option.some.injEq] at h
    exact h.right ▸ .cons_of (by decide) h.left .refl
  case h_5 => cases h

theorem numberEnd : Skips numberEnd := by
  intro s rest h
  cases s
  case nil => cases h; exact .refl
  case cons c cs =>
    have hs : Skipped (c :: cs) (if isNameStart c then Scan.suffix (c :: cs) else c :: cs) := by
      split
      case isTrue => exact suffix _
      case isFalse => exact .refl
    simp only [Scan.numberEnd] at h
    split at h
    case h_1 =>
      simp only [Option.ite_none_left_eq_some, Option.some.injEq] at h
      exact h.right ▸ hs
    case h_2 hn => exact Option.some.inj h ▸ hn ▸ hs

theorem exponentEnd {signed valued : Bool} : Skips (exponentEnd signed valued) := by
  intro s rest h
  fun_induction Scan.exponentEnd signed valued s
  case case1 | case6 | case8 => cases h; exact .refl
  case case2 | case7 | case9 => cases h
  case case3 hc _ _ hi =>
    exact .cons_of (p := fun c => c == '+' || c == '-') (by decide) hc (hi h)
  case case4 hc hi => exact .cons_of (by decide) hc (hi h)
  case case5 hc hi => exact .cons_of (p := (· == '_')) (by decide) hc (hi h)

theorem startsExponent (h : Scan.startsExponent s) : Skipped s s.tail := by
  cases s
  case nil => exact .refl
  case cons c s =>
    exact .cons_of (p := fun c => c == 'e' || c == 'E') (by decide) h .refl

theorem floatDigits : Skips floatDigits := by
  intro s rest h
  unfold Scan.floatDigits at h
  split at h
  case h_1 => cases h
  case h_2 d ds =>
    simp only [Bool.not_eq_true', Option.ite_none_left_eq_some] at h
    obtain ⟨hd, h⟩ := h
    refine .cons_of (p := Char.isDigit) (by decide) (by simpa using hd) ?_
    refine .trans (.dropWhile (p := isDigitOrUnderscore) (by decide)) ?_
    split at h
    case h_1 after he =>
      rw [he]
      refine .cons (by decide) (by decide) ?_
      refine .trans (.dropWhile (p := isDigitOrUnderscore) (by decide)) ?_
      split at h
      case isTrue => cases h
      case isFalse =>
        split at h
        case isFalse => cases h; exact .refl
        case isTrue hs =>
          cases he : Scan.exponentEnd false false (after.dropWhile isDigitOrUnderscore).tail <;> rw [he] at h
          case none => cases h; exact .refl
          case some => cases h; exact (startsExponent hs).trans (exponentEnd he)
    case h_2 he =>
      simp only [Option.ite_none_right_eq_some] at h
      exact he ▸ (startsExponent h.left).trans (exponentEnd h.right)
    case h_3 => cases h

theorem digitsFrom {base : Nat} {empty : Bool} : Skips (digitsFrom base empty) := by
  intro s rest h
  fun_induction Scan.digitsFrom base empty s
  case case1 | case4 | case5 | case8 => cases h
  case case2 | case9 => cases h; exact .refl
  case case3 hc _ hi => exact .cons_of (by decide) hc (hi h)
  case case6 hc _ hi => exact .cons_of (p := (· == '_')) (by decide) hc (hi h)
  case case7 hc hi => exact isHex (by simp_all) (hi h)

theorem digits : Skips digits := by
  intro s rest h
  unfold Scan.digits at h
  split at h
  case h_4 => exact digitsFrom h
  all_goals exact .cons (by decide) (by decide) <| .cons (by decide) (by decide) <| digitsFrom h

theorem bind {r r' : Reader} (h : Skips r) (h' : Skips r') : Skips fun s => (r s).bind r' := by
  intro s rest hs
  obtain ⟨t, hr, hs⟩ := Option.bind_eq_some_iff.mp hs
  exact (h hr).trans (h' hs)

theorem float : Skips float :=
  floatDigits.bind numberEnd

theorem int : Skips int :=
  digits.bind numberEnd

end Skips

end EnvConfig.Source.Scan
