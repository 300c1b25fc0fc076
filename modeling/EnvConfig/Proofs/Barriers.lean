import EnvConfig.Proofs.Skipping
import EnvConfig.Source.Reading
import Mathlib.Data.List.TakeDrop
import Mathlib.Data.List.TakeWhile
import Mathlib.Data.Option.Basic

-- A documentation comment with a carriage return in it but without a line feed behind that cannot be read,
-- and neither can a text that has such a comment behind nothing but other comments and characters that start
-- none.

namespace EnvConfig.Source

open Text

namespace Scan

-- A text with a comment that cannot be read, behind nothing but other comments and characters that start
-- none.
inductive Barred : List Char → Prop
  | comment {x y} : x.head? ≠ some '/' → '"' ∉ x → '\n' ∉ x → y.head? ≠ some '\n' →
    Barred ('/' :: '/' :: '/' :: (x ++ '\r' :: y))
  | slashes {s} : s.head? ≠ some '/' → Barred s → Barred ('/' :: '/' :: '/' :: s)
  | char {c s} : c ≠ '/' → Barred s → Barred (c :: s)

-- What may be left of a barred text within a quoted literal, slashes of the comment included. No quote ends
-- the literal behind those slashes, and the carriage return does not let it go on.
inductive Trapped : List Char → Prop
  | barred {s} : Barred s → Trapped s
  | slash {s} : Trapped s → Trapped ('/' :: s)
  | behind {x y} : '"' ∉ x → y.head? ≠ some '\n' → Trapped (x ++ '\r' :: y)

namespace Barred

variable {c : Char} {s rest : List Char}

theorem tail (hc : c ≠ '/') (h : Barred (c :: s)) : Barred s := by
  cases h
  case char h => exact h
  all_goals exact absurd rfl hc

theorem skipped (h : Barred s) (hs : Skipped s rest) : Barred rest := by
  induction hs
  case refl => exact h
  case cons hc _ _ hi => exact hi (h.tail hc)

theorem append {lead : List Char} (hl : '/' ∉ lead) (h : Barred s) : Barred (lead ++ s) := by
  induction lead
  case nil => exact h
  case cons c lead hi =>
    have ⟨hc, hl⟩ := not_or.mp (List.mem_cons.not.mp hl)
    exact .char (Ne.symm hc) (hi hl)

theorem of_append {lead : List Char} (hl : '/' ∉ lead) (h : Barred (lead ++ s)) : Barred s := by
  induction lead
  case nil => exact h
  case cons c lead hi =>
    have ⟨hc, hl⟩ := not_or.mp (List.mem_cons.not.mp hl)
    exact hi hl (h.tail (Ne.symm hc))

-- A slash is the first of exactly three.
theorem slashes_of_head (h : Barred ('/' :: s)) :
    ∃ t, s = '/' :: '/' :: t ∧ t.head? ≠ some '/' := by
  cases h
  case comment x y hx _ _ _ =>
    refine ⟨_, rfl, ?_⟩
    cases x <;> simp_all
  case slashes h _ => exact ⟨_, rfl, h⟩
  case char h _ => exact absurd rfl h

theorem start (h : Barred s) : (∃ c t, s = c :: t ∧ c ≠ '/') ∨
    ∃ t, s = '/' :: '/' :: '/' :: t ∧ t.head? ≠ some '/' := by
  cases s
  case nil => cases h
  case cons c s =>
    by_cases hc : c = '/'
    case neg => exact .inl ⟨c, s, rfl, hc⟩
    case pos =>
      obtain ⟨t, rfl, ht⟩ := slashes_of_head (hc ▸ h)
      exact .inr ⟨t, by rw [hc], ht⟩

end Barred

namespace Trapped

variable {c : Char} {s rest : List Char}

theorem unquote (h : Trapped ('"' :: s)) : Barred s := by
  generalize hs : '"' :: s = t at h
  cases h
  case barred h => exact (hs ▸ h).tail (by decide)
  case slash => simp at hs
  case behind x y h _ => cases x <;> simp_all

-- Unless a carriage return is next that is not followed by a line feed, what is behind the next character is
-- still trapped.
theorem tail (h : Trapped (c :: s)) (hr : c ≠ '\r' ∨ s.head? = some '\n') : Trapped s := by
  generalize hs : c :: s = t at h
  cases h
  case slash h => exact (List.cons.inj hs).right ▸ h
  case behind x y hq hy =>
    cases x
    case nil =>
      obtain ⟨rfl, rfl⟩ := List.cons.inj hs
      exact absurd (hr.resolve_left (absurd rfl)) hy
    case cons d x =>
      obtain ⟨rfl, rfl⟩ := List.cons.inj hs
      exact .behind (by simp_all) hy
  case barred h =>
    subst hs
    cases h
    case comment hq _ hy => exact .slash <| .slash <| .behind hq hy
    case slashes h => exact .slash <| .slash <| .barred h
    case char h => exact .barred h

theorem skipped (h : Trapped s) (hs : Skipped s rest) : Trapped rest := by
  induction hs
  case refl => exact h
  case cons hr _ hi => exact hi (h.tail (.inl hr))

end Trapped

theorem head?_of_joinedLine {s rest : List Char} (h : joinedLine true s = some rest) :
    s.head? = some '\n' := by
  unfold joinedLine at h
  split at h <;> simp_all

namespace Trapped

variable {s rest : List Char}

theorem joinedLine {cr : Bool} (h : Trapped s) (hr : Scan.joinedLine cr s = some rest) : Trapped rest := by
  fun_induction Scan.joinedLine cr s
  case case1 hi => exact hi (h.tail (.inl (by decide))) hr
  case case3 hi => exact hi (h.tail (.inr (head?_of_joinedLine hr))) hr
  case case5 hc _ _ hi => exact hi (h.tail (.inl hc)) hr
  case case6 => exact Option.some.inj hr ▸ h
  all_goals cases hr

theorem cookedRounds {q : Quoted} {rounds : List Char} (h : Trapped s)
    (hr : Scan.cookedRounds q rounds s = some rest) : Barred rest := by
  induction rounds generalizing s
  case nil => cases hr
  case cons _ rounds hi =>
    unfold Scan.cookedRounds at hr
    split at hr
    case h_1 => exact Option.some.inj hr ▸ h.unquote.skipped (Skips.suffix _)
    case h_2 => exact hi ((h.tail (.inr rfl)).tail (.inl (by decide))) hr
    case h_4 =>
      obtain ⟨t, ht, hr⟩ := Option.bind_eq_some_iff.mp hr
      exact hi (joinedLine ((h.tail (.inl (by decide))).tail (.inl (by decide))) ht) hr
    case h_5 =>
      obtain ⟨t, ht, hr⟩ := Option.bind_eq_some_iff.mp hr
      exact hi (joinedLine ((h.tail (.inl (by decide))).tail (.inr (head?_of_joinedLine ht))) ht) hr
    case h_6 =>
      obtain ⟨t, ht, hr⟩ := Option.bind_eq_some_iff.mp hr
      exact hi ((h.tail (.inl (by decide))).skipped (Skips.escape q ht)) hr
    case h_7 hc _ _ _ =>
      simp only [Option.ite_none_right_eq_some] at hr
      exact hi (h.tail (.inl hc)) hr.right
    all_goals cases hr

theorem rawBody {q : Quoted} {hashes : List Char} (hh : ∀ c ∈ hashes, c ≠ '/' ∧ c ≠ '\r') (h : Trapped s)
    (hr : Scan.rawBody q hashes s = some rest) : Barred rest := by
  fun_induction Scan.rawBody q hashes s
  case case1 hi => exact hi ((h.tail (.inr rfl)).tail (.inl (by decide))) hr
  case case3 c cs _ _ hc =>
    simp only [Bool.and_eq_true, beq_iff_eq] at hc
    obtain ⟨rfl, t, rfl⟩ := hc.imp_right List.isPrefixOf_iff_prefix.mp
    rw [List.drop_left] at hr
    exact Option.some.inj hr ▸ (h.unquote.skipped (.append hh)).skipped (Skips.suffix _)
  case case4 hc _ _ hi => exact hi (h.tail (.inl hc)) hr
  all_goals cases hr

end Trapped

namespace Barred

variable {s rest : List Char}

theorem rawQuoted {q : Quoted} (h : Barred s) (hr : Scan.rawQuoted q s = some rest) : Barred rest := by
  have hd : s.drop (s.takeWhile (· == '#')).length = s.dropWhile (· == '#') := by
    conv => lhs; arg 2; rw [← List.takeWhile_append_dropWhile (p := (· == '#')) (l := s)]
    exact List.drop_left
  have hh : ∀ c ∈ s.takeWhile (· == '#'), c ≠ '/' ∧ c ≠ '\r' := by
    intro c hc
    obtain rfl : c = '#' := by simpa using List.mem_takeWhile_imp hc
    decide
  simp only [Scan.rawQuoted, hd] at hr
  split at hr
  case h_2 => cases hr
  case h_1 he =>
    simp only [Option.ite_none_right_eq_some] at hr
    have hs : Skipped s (s.dropWhile (· == '#')) := .dropWhile (by decide)
    exact Trapped.rawBody hh (.barred ((he ▸ h.skipped hs).tail (by decide))) hr.right

theorem literally {lead : String} (hl : '/' ∉ lead.toList) (h : Barred s)
    (hr : Scan.literally lead s = some rest) : Barred rest := by
  simp only [Scan.literally, Option.ite_none_right_eq_some, Option.some.injEq] at hr
  obtain ⟨hp, rfl⟩ := hr
  obtain ⟨t, rfl⟩ := List.isPrefixOf_iff_prefix.mp hp
  rw [← String.length_toList, List.drop_left]
  exact h.of_append hl

theorem quoted {q : Quoted} {lead : String} (hl : '/' ∉ lead.toList) (h : Barred s)
    (hr : Scan.quoted q lead s = some rest) : Barred rest := by
  unfold Scan.quoted at hr
  split at hr
  case h_1 hs => exact (Trapped.barred (h.literally (by simp [hl]) hs)).cookedRounds hr
  case h_2 =>
    obtain ⟨t, ht, hr⟩ := Option.bind_eq_some_iff.mp hr
    exact (h.literally (by simp [hl]) ht).rawQuoted hr

theorem closeQuote {c : Char} (h : Barred (c :: s)) (hr : Scan.closeQuote s = some rest) : Barred rest := by
  by_cases hc : c = '/'
  case neg => exact (h.tail hc).skipped (Skips.closeQuote hr)
  case pos =>
    obtain ⟨t, rfl, _⟩ := slashes_of_head (hc ▸ h)
    cases hr

theorem character (h : Barred s) (hr : Scan.character s = some rest) : Barred rest := by
  unfold Scan.character at hr
  split at hr
  case h_1 =>
    have hs := Skips.bind (Skips.escape .text) Skips.closeQuote hr
    exact ((h.tail (by decide)).tail (by decide)).skipped hs
  case h_2 => exact (h.tail (by decide)).closeQuote hr
  case h_3 => cases hr

theorem byte (h : Barred s) (hr : Scan.byte s = some rest) : Barred rest := by
  unfold Scan.byte at hr
  split at hr
  case h_1 =>
    have hs := Skips.bind (Skips.escape .bytes) Skips.closeQuote hr
    exact (((h.tail (by decide)).tail (by decide)).tail (by decide)).skipped hs
  case h_2 =>
    simp only [Option.ite_none_right_eq_some] at hr
    exact ((h.tail (by decide)).tail (by decide)).closeQuote hr.right
  case h_3 => cases hr

theorem literal (h : Barred s) (hr : Scan.literal s = some rest) : Barred rest := by
  simp only [Scan.literal, Option.orElse_eq_some] at hr
  obtain hr | ⟨_, hr | ⟨_, hr | ⟨_, hr | ⟨_, hr | ⟨_, hr | ⟨_, hr⟩⟩⟩⟩⟩⟩ := hr
  case inl => exact h.quoted (by decide) hr
  case inr.inl => exact h.quoted (by decide) hr
  case inr.inr.inl => exact h.quoted (by decide) hr
  case inr.inr.inr.inl => exact h.byte hr
  case inr.inr.inr.inr.inl => exact h.character hr
  case inr.inr.inr.inr.inr.inl => exact h.skipped (Skips.float hr)
  case inr.inr.inr.inr.inr.inr => exact h.skipped (Skips.int hr)

theorem punct {c : Char} {joint : Bool} (h : Barred s) (hr : Scan.punct s = some (c, joint, rest)) :
    Barred rest := by
  simp only [Scan.punct, Bool.not_eq_true', Option.ite_none_left_eq_some] at hr
  obtain ⟨hp, hr⟩ := hr
  split at hr
  case h_3 => cases hr
  case h_1 =>
    split at hr
    case h_1 => cases hr
    case h_2 =>
      simp only [Option.ite_none_left_eq_some, Option.some.injEq, Prod.mk.injEq] at hr
      exact hr.right.right.right.right ▸ h.tail (by decide)
  case h_2 d ds _ =>
    have hd : d ≠ '/' := by
      rintro rfl
      obtain ⟨t, rfl, _⟩ := slashes_of_head h
      simp [startsPunct, startsWith, List.isPrefixOf] at hp
    cases hr
    exact h.tail hd

theorem ident {i : Ident} {k : Nat} (h : Barred s) (hr : Scan.ident s = some (i, k, rest)) : Barred rest := by
  have hd : Barred (if startsWith "r#" s then s.drop 2 else s) := by
    split
    case isFalse => exact h
    case isTrue hs =>
      have hr : Scan.literally "r#" s = some (s.drop 2) := if_pos hs
      exact h.literally (by decide) hr
  unfold Scan.ident at hr
  split at hr
  case isTrue => cases hr
  case isFalse =>
    simp only at hr
    split at hr
    case h_1 => cases hr
    case h_2 hw =>
      simp only [Option.ite_none_left_eq_some, Option.some.injEq, Prod.mk.injEq] at hr
      exact hr.right.right.right ▸ hd.skipped (Skips.splitName hw)

theorem not_startsWith_errorMark (h : Barred s) : startsWith errorMark s = false := by
  have hm : errorMark.toList = '(' :: '/' :: '*' :: "ERROR*/)".toList := by decide
  refine Bool.eq_false_iff.mpr fun hs => ?_
  rw [startsWith, hm] at hs
  obtain ⟨t, rfl⟩ := List.isPrefixOf_iff_prefix.mp hs
  obtain ⟨_, he, _⟩ := slashes_of_head (h.tail (by decide))
  exact absurd (List.cons.inj he).left (by decide)

theorem leaf {pos k : Nat} {t : Token} (h : Barred s) (hr : Scan.leaf pos s = some (t, k, rest)) :
    Barred rest := by
  unfold Scan.leaf at hr
  split at hr
  case h_1 hl => cases hr; exact h.literal hl
  case h_2 =>
    split at hr
    case h_1 hp => cases hr; exact h.punct hp
    case h_2 =>
      split at hr
      case h_1 hi => cases hr; exact h.ident hi
      case h_2 => simp [Scan.literally, h.not_startsWith_errorMark] at hr

theorem dropWhile {p : Char → Bool} (hp : p '/' = false) (h : Barred s) : Barred (s.dropWhile p) := by
  induction s
  case nil => exact h
  case cons c s hi =>
    rw [List.dropWhile_cons]
    split
    case isFalse => exact h
    case isTrue hc => exact hi (h.tail fun he => by simp [he, hp] at hc)

theorem isPrefixOf_of_head? {c : Char} {t : List Char} (h : t.head? ≠ some c) : [c].isPrefixOf t = false := by
  cases t
  case nil => rfl
  case cons d t =>
    have hc : c ≠ d := fun he => h (congrArg some he.symm)
    simp [List.isPrefixOf, hc]

theorem not_isPlainComment (h : Barred s) : isPlainLineComment s = false ∧ isPlainBlockComment s = false := by
  obtain ⟨c, t, rfl, hc⟩ | ⟨t, rfl, ht⟩ := h.start
  case inl =>
    have hc : ('/' == c) = false := by simpa using Ne.symm hc
    simp [isPlainLineComment, isPlainBlockComment, startsWith, List.isPrefixOf, hc]
  case inr =>
    simp [isPlainLineComment, isPlainBlockComment, startsWith, List.isPrefixOf, isPrefixOf_of_head? ht]

-- Neither white space nor plain comments take anything of a comment that documents something.
theorem skipRounds {rounds : List Char} (h : Barred s) : Barred (Scan.skipRounds rounds s) := by
  induction rounds generalizing s
  case nil => exact h
  case cons _ rounds hi =>
    simp only [Scan.skipRounds, h.not_isPlainComment, Bool.false_eq_true, ↓reduceIte]
    split
    case h_2 => exact h
    case h_1 c s =>
      split
      case isFalse => exact h
      case isTrue hc =>
        refine hi (h.tail ?_)
        rintro rfl
        cases hc

theorem leadingSpace (h : Barred s) : Barred (Scan.leadingSpace s).2 := by
  have hd : Barred (s.dropWhile isSpace) := h.dropWhile (by decide)
  unfold Scan.leadingSpace
  rw [List.span_eq_takeWhile_dropWhile]
  simp only
  split
  case h_1 => exact hd.skipRounds
  case h_2 => exact hd

end Barred

theorem lineEnd_suffix (s : List Char) : lineEnd s <:+ s := by
  fun_induction lineEnd s
  case case1 => exact List.suffix_cons ..
  case case2 => exact List.suffix_rfl
  case case3 hi => exact hi.trans (List.suffix_cons ..)
  case case4 => exact List.suffix_rfl

theorem lineEnd_cons {c : Char} {s : List Char} (hc : c ≠ '\n') (hr : c ≠ '\r' ∨ s.head? ≠ some '\n') :
    lineEnd (c :: s) = lineEnd s := by
  refine lineEnd.eq_3 c s (fun cs he hs => ?_) hc
  exact hr.elim (absurd he) (absurd (congrArg List.head? hs))

theorem lineEnd_append {x s : List Char} (hx : '\n' ∉ x) : lineEnd (x ++ '\n' :: s) = '\n' :: s := by
  induction x
  case nil => rfl
  case cons c x hi =>
    have ⟨hc, hx⟩ := not_or.mp (List.mem_cons.not.mp hx)
    by_cases hr : c ≠ '\r' ∨ (x ++ '\n' :: s).head? ≠ some '\n'
    case pos => exact (lineEnd_cons (Ne.symm hc) hr).trans (hi hx)
    case neg =>
      obtain ⟨rfl, hr⟩ : c = '\r' ∧ (x ++ '\n' :: s).head? = some '\n' := by simpa using hr
      cases x
      case nil => rfl
      case cons => simp_all

theorem before_eq {s w rest : List Char} (h : s = w ++ rest) : before s rest = w := by
  simp [before, h]

theorem head?_ne {α : Type} {a : α} {s t : List α} (h : s <+: t) (ht : t.head? ≠ some a) :
    s.head? ≠ some a := by
  obtain ⟨u, rfl⟩ := h
  cases s
  case nil => simp
  case cons => exact ht

-- A carriage return without a line feed behind that, in the first line of a text.
inductive BareReturn : List Char → Prop
  | here {s} : s.head? ≠ some '\n' → BareReturn ('\r' :: s)
  | behind {c s} : c ≠ '\n' → BareReturn s → BareReturn (c :: s)

namespace BareReturn

variable {s : List Char}

theorem append {x : List Char} (hx : '\n' ∉ x) (h : BareReturn s) : BareReturn (x ++ s) := by
  induction x
  case nil => exact h
  case cons c x hi =>
    have ⟨hc, hx⟩ := not_or.mp (List.mem_cons.not.mp hx)
    exact .behind (Ne.symm hc) (hi hx)

theorem tail {c : Char} (hc : c ≠ '\r') (h : BareReturn (c :: s)) : BareReturn s := by
  cases h
  case here => exact absurd rfl hc
  case behind h => exact h

theorem head? (h : BareReturn s) : s.head? ≠ some '\n' := by
  cases h
  case here => simp
  case behind hc _ => simpa using hc

theorem noBareReturn (h : BareReturn s) : noBareReturn s = false := by
  induction h
  case here s hs => cases s <;> simp_all [Scan.noBareReturn]
  case behind c s _ h hi =>
    have hs := h.head?
    unfold Scan.noBareReturn
    split <;> simp_all

-- The characters in front of the line's end, with or without a carriage return as the last one.
theorem lineEnd (h : BareReturn s) : ∃ w, s = w ++ lineEnd s ∧ BareReturn w ∧
    ((Scan.lineEnd s).head? = some '\n' → BareReturn w.dropLast) := by
  induction h
  case here s hs =>
    obtain ⟨u, hu⟩ := lineEnd_suffix s
    rw [lineEnd_cons (by decide) (.inr hs)]
    refine ⟨'\r' :: u, by simp [hu], .here (head?_ne ⟨_, hu⟩ hs), fun hl => ?_⟩
    cases u
    case nil => exact absurd (hu ▸ hl) hs
    case cons => exact .here <| head?_ne ((List.dropLast_prefix _).trans ⟨_, hu⟩) hs
  case behind c s hc h hi =>
    obtain ⟨w, hw, hb, hd⟩ := hi
    rw [lineEnd_cons hc (.inr h.head?)]
    refine ⟨c :: w, by simp [← hw], .behind hc hb, fun hl => ?_⟩
    cases w
    case nil => cases hb
    case cons => exact .behind hc (hd hl)

-- So no comment with such a line can be read.
theorem line {s : List Char} (h : BareReturn (s.drop 3)) : Scan.noBareReturn (docComment.line s) = false := by
  obtain ⟨w, hw, hb, hd⟩ := h.lineEnd
  simp only [docComment.line, docComment.lineRest, before_eq hw]
  split
  case isFalse => exact hb.noBareReturn
  case isTrue hl =>
    simp only [Bool.and_eq_true, beq_iff_eq] at hl
    exact (hd hl.right).noBareReturn

end BareReturn

namespace Barred

variable {s : List Char}

theorem lineEnd (h : Barred s) : BareReturn s ∨ Barred (Scan.lineEnd s) := by
  induction h
  case comment x y _ _ hx hy =>
    exact .inl <| .behind (by decide) <| .behind (by decide) <| .behind (by decide) <| .append hx (.here hy)
  case slashes hi =>
    exact hi.imp_left fun h => .behind (by decide) <| .behind (by decide) <| .behind (by decide) h
  case char c s hc h hi =>
    by_cases hn : c = '\n'
    case pos => exact .inr <| hn ▸ .char (by decide) h
    case neg =>
      by_cases hr : c ≠ '\r' ∨ s.head? ≠ some '\n'
      case pos =>
        rw [lineEnd_cons hn hr]
        exact hi.imp_left (.behind hn)
      case neg =>
        obtain ⟨rfl, hs⟩ : c = '\r' ∧ s.head? = some '\n' := by simpa using hr
        obtain ⟨t, rfl⟩ := List.head?_eq_some_iff.mp hs
        exact .inr h

-- What is behind a documentation comment that can be read.
theorem docComment {text rest : List Char} {inner : Bool} (h : Barred s)
    (hr : Scan.docComment s = some (text, inner, rest)) (ht : noBareReturn text) : Barred rest := by
  obtain ⟨c, t, rfl, hc⟩ | ⟨t, rfl, hh⟩ := h.start
  case inl =>
    have hc : ('/' == c) = false := by simpa using Ne.symm hc
    simp [Scan.docComment, startsWith, List.isPrefixOf, hc] at hr
  case inr =>
    have hd : Scan.docComment ('/' :: '/' :: '/' :: t) = some (docComment.line ('/' :: '/' :: '/' :: t),
        false, docComment.lineRest ('/' :: '/' :: '/' :: t)) := by
      simp [Scan.docComment, startsWith, List.isPrefixOf, isPrefixOf_of_head? hh]
    cases hd.symm.trans hr
    have hl : Scan.lineEnd ('/' :: '/' :: '/' :: t) = docComment.lineRest ('/' :: '/' :: '/' :: t) := by
      simp only [lineEnd_cons (c := '/') (by decide) (.inl (by decide))]
      rfl
    refine hl ▸ h.lineEnd.resolve_left fun hb => ?_
    have hb : BareReturn t := ((hb.tail (by decide)).tail (by decide)).tail (by decide)
    exact Bool.false_ne_true (hb.line (s := '/' :: '/' :: '/' :: t) ▸ ht)

end Barred

-- There is no way past the comment: what a round leaves is barred again, until the rounds or the characters
-- that make a token run out.
theorem go_eq_error {done : List Token} {stack : List Frame} {n pos : Nat} {s : List Char}
    (h : Barred (leadingSpace s).2) : ∃ e, go done stack n pos s = .error e := by
  induction n generalizing done stack pos s
  case zero => exact ⟨pos, rfl⟩
  case succ n hi =>
    unfold go
    generalize leadingSpace s = p at h
    obtain ⟨k, s⟩ := p
    simp only
    split
    case h_1 text inner rest hd =>
      obtain ⟨hd, ht⟩ := Option.filter_eq_some_iff.mp hd
      exact hi (h.docComment hd ht).leadingSpace
    case h_2 => cases h
    case h_3 c cs _ =>
      split
      case h_1 d _ ho =>
        rw [h.not_startsWith_errorMark]
        refine hi (h.tail ?_).leadingSpace
        rintro rfl
        cases ho
      case h_2 hd =>
        have hc : c ≠ '/' := by
          rintro rfl
          cases hd
        split
        case h_1 =>
          split
          case isTrue => exact hi (h.tail hc).leadingSpace
          case isFalse => exact ⟨_, rfl⟩
        case h_2 => exact ⟨_, rfl⟩
      case h_3 =>
        split
        case h_1 hl => exact hi (h.leaf hl).leadingSpace
        case h_2 => exact ⟨_, rfl⟩

end Scan

-- A text behind a line that is a plain comment.
theorem readFile_eq_error {line body : List Char} {text : String} (hl : '\n' ∉ line)
    (h : Scan.Barred body) (ht : text.toList = "// ".toList ++ (line ++ '\n' :: body)) :
    ∃ e, readFile text = .error e := by
  have ht : text.toList = '/' :: '/' :: ' ' :: (line ++ '\n' :: body) := ht
  have hb : Scan.Barred (Scan.leadingSpace text.toList).2 := by
    have he : Scan.lineEnd ('/' :: '/' :: ' ' :: (line ++ '\n' :: body)) = '\n' :: body := by
      simp only [Scan.lineEnd_cons (c := '/') (by decide) (.inl (by decide)),
        Scan.lineEnd_cons (c := ' ') (by decide) (.inl (by decide)), Scan.lineEnd_append hl]
    have hs : Scan.isSpace '/' = false := by decide
    have hc : Scan.isPlainLineComment ('/' :: '/' :: ' ' :: (line ++ '\n' :: body)) := by
      simp [Scan.isPlainLineComment, Scan.startsWith, List.isPrefixOf]
    rw [ht, Scan.leadingSpace, List.span_eq_takeWhile_dropWhile]
    simp only [List.dropWhile_cons, hs, Bool.false_eq_true, ↓reduceIte]
    rw [Scan.skipSpace, Scan.skipRounds, if_pos hc, he]
    exact (Scan.Barred.char (c := '\n') (by decide) h).skipRounds
  obtain ⟨e, he⟩ : ∃ e, Scan.go [] [] (text.toList.length + 1) 0 text.toList = .error e := Scan.go_eq_error hb
  have hs : scan (content text.toList) = .error e := by
    rw [ht] at he ⊢
    exact he
  simp [readFile, read, hs]

end EnvConfig.Source
