import EnvConfig.Source.Reading
import EnvConfig.Proofs.Results
import Mathlib.Data.List.Infix

-- What is known of a text from its tokens: a text without space, comments and delimiters that reads as one
-- identifier is that identifier.

namespace EnvConfig.Source

open Text

namespace Scan

-- What one round does to the tokens of the innermost open group, and to the groups around it.
inductive Round : List Token → List Frame → List Token → List Frame → Prop
  | leaf {done stack} (ts : List Token) : Round done stack (ts ++ done) stack
  | opened {done stack} (d : Delimiter) (start : Nat) : Round done stack [] (⟨d, start, done⟩ :: stack)
  | closed {done stack} (f : Frame) (t : Token) : Round done (f :: stack) (t :: f.before) stack

theorem round_of_go {done : List Token} {stack : List Frame} {n pos : Nat} {s : List Char}
    {ts : List Token} (h : go done stack (n + 1) pos s = .ok ts) :
    (stack = [] ∧ ts = done.reverse) ∨ ∃ done' stack' pos' rest,
      Round done stack done' stack' ∧ go done' stack' n pos' rest = .ok ts := by
  unfold go at h
  simp only at h
  split at h
  case h_1 => exact .inr ⟨_, _, _, _, .leaf _, h⟩
  case h_2 =>
    split at h
    case h_1 => exact .inl ⟨rfl, by cases h; rfl⟩
    case h_2 => cases h
  case h_3 =>
    split at h
    case h_1 =>
      split at h
      case isTrue =>
        split at h
        case h_1 t _ _ _ => exact .inr ⟨_, _, _, _, .leaf [t], h⟩
        case h_2 => cases h
      case isFalse => exact .inr ⟨_, _, _, _, .opened _ _, h⟩
    case h_2 =>
      split at h
      case h_1 =>
        split at h
        case isTrue => exact .inr ⟨_, _, _, _, .closed _ _, h⟩
        case isFalse => cases h
      case h_2 => cases h
    case h_3 =>
      split at h
      case h_1 t _ _ _ => exact .inr ⟨_, _, _, _, .leaf [t], h⟩
      case h_2 => cases h

-- The tokens outside of all groups, the last one first.
def outermost (done : List Token) : List Frame → List Token
  | []         => done
  | f :: stack => outermost f.before stack

theorem outermost_suffix {done done' : List Token} (stack : List Frame) (h : done <:+ done') :
    outermost done stack <:+ outermost done' stack := by
  cases stack
  case nil => exact h
  case cons => exact List.suffix_rfl

theorem Round.outermost_suffix {done done' : List Token} {stack stack' : List Frame} :
    Round done stack done' stack' → outermost done stack <:+ outermost done' stack'
  | leaf ts    => Scan.outermost_suffix _ (List.suffix_append ts _)
  | opened _ _ => List.suffix_rfl
  | closed f t => Scan.outermost_suffix _ (List.suffix_cons t f.before)

-- No round takes back a token.
theorem outermost_prefix_of_go {done : List Token} {stack : List Frame} {n pos : Nat} {s : List Char}
    {ts : List Token} (h : go done stack n pos s = .ok ts) :
    (outermost done stack).reverse <+: ts := by
  induction n generalizing done stack pos s
  case zero => cases h
  case succ n hi =>
    obtain ⟨rfl, rfl⟩ | ⟨done', stack', pos', rest, r, h⟩ := round_of_go h
    case inl => exact List.prefix_rfl
    case inr => exact (List.reverse_prefix.mpr r.outermost_suffix).trans (hi h)

-- A character that is no space, starts no comment, and is neither a delimiter nor a byte order mark.
structure Solid (c : Char) : Prop where
  space  : isSpace c = false
  slash  : c ≠ '/'
  mark   : c ≠ '\ufeff'
  opener : opener? c = none
  closer : closer? c = none

namespace Solid

variable {c : Char} {cs : List Char}

theorem leadingSpace_eq (h : Solid c) : leadingSpace (c :: cs) = (0, c :: cs) := by
  simp only [leadingSpace, List.span, List.span.loop, h.space]
  split
  case h_1 he => exact absurd (List.cons.inj he).left h.slash
  case h_2 => rfl

theorem docComment_eq (h : Solid c) : docComment (c :: cs) = none := by
  have hc : ('/' == c) = false := by simpa using Ne.symm h.slash
  simp [docComment, startsWith, List.isPrefixOf, hc]

end Solid

-- Where a solid character stands, a leaf is read.
theorem leaf_of_go {done ts : List Token} {n pos : Nat} {c : Char} {cs : List Char} (hc : Solid c)
    (h : go done [] (n + 1) pos (c :: cs) = .ok ts) :
    ∃ t k rest, leaf pos (c :: cs) = some (t, k, rest) ∧ go (t :: done) [] n (pos + k) rest = .ok ts := by
  unfold go at h
  simp only [hc.leadingSpace_eq, hc.docComment_eq, hc.opener, hc.closer, Option.filter_none, Nat.add_zero] at h
  split at h
  case h_1 t k rest hl => exact ⟨t, k, rest, hl, h⟩
  case h_2 => cases h

theorem append_of_splitName {s word rest : List Char} (h : splitName s = some (word, rest)) :
    s = word ++ rest := by
  cases s
  case nil => cases h
  case cons c cs =>
    simp only [splitName, Option.ite_none_right_eq_some, Option.some.injEq, Prod.mk.injEq] at h
    obtain ⟨-, rfl, rfl⟩ := h
    simp

theorem append_of_ident {s rest : List Char} {i : Ident} {k : Nat} (h : ident s = some (i, k, rest)) :
    s = i.text.toList ++ rest := by
  unfold ident at h
  split at h
  case isTrue => cases h
  case isFalse =>
    simp only at h
    split at h
    case h_1 => cases h
    case h_2 word rest' hw =>
      split at h
      case isTrue => cases h
      case isFalse =>
        simp only [Option.some.injEq, Prod.mk.injEq] at h
        obtain ⟨rfl, -, rfl⟩ := h
        have hw := append_of_splitName hw
        by_cases hr : startsWith "r#" s
        case pos =>
          have ⟨cs, hs⟩ : "r#".toList <+: s := List.isPrefixOf_iff_prefix.mp hr
          simp only [Ident.text, hr, ↓reduceIte] at hw ⊢
          simpa [← hs] using hw
        case neg => simpa [Ident.text, hr] using hw

theorem ident_of_leaf {pos p k : Nat} {s rest : List Char} {i : Ident}
    (h : leaf pos s = some (.ident i p, k, rest)) : ident s = some (i, k, rest) := by
  unfold leaf at h
  split at h
  case h_1 => cases h
  case h_2 =>
    split at h
    case h_1 => cases h
    case h_2 =>
      split at h
      case h_1 hi => cases h; exact hi
      case h_2 =>
        simp only [Option.map_eq_some_iff] at h
        obtain ⟨_, _, h⟩ := h
        cases h

-- Whatever stood behind the identifier would be a further token.
theorem eq_text_of_go {n pos p : Nat} {s : List Char} {i : Ident} (hs : ∀ c ∈ s, Solid c)
    (h : go [] [] n pos s = .ok [.ident i p]) : s = i.text.toList := by
  cases n
  case zero => cases h
  case succ n =>
    cases s
    case nil => cases h
    case cons c cs =>
      obtain ⟨t, k, rest, hl, h⟩ := leaf_of_go (hs c (.head _)) h
      obtain ⟨rfl, -⟩ := List.cons_prefix_cons.mp (outermost_prefix_of_go h)
      have he := append_of_ident (ident_of_leaf hl)
      cases rest
      case nil => simpa using he
      case cons d ds =>
        cases n
        case zero => cases h
        case succ n =>
          have hd : d ∈ c :: cs := by simp [he]
          obtain ⟨t', _, _, _, h⟩ := leaf_of_go (hs d hd) h
          have hp := (outermost_prefix_of_go h).length_le
          simp [outermost] at hp

end Scan

theorem eq_text_of_scan {p : Nat} {s : List Char} {i : Ident} (hs : ∀ c ∈ s, Scan.Solid c)
    (h : scan s = .ok [.ident i p]) : s = i.text.toList := by
  unfold scan at h
  split at h
  case h_1 => exact absurd rfl (hs _ (.head _)).mark
  case h_2 => exact Scan.eq_text_of_go hs h

namespace Parser

variable {α β : Type}

theorem bind_run_eq_ok {p : Parser α} {q : α → Parser β} {c : Cursor} {r : β × Cursor} :
    (p >>= q) c = .ok r ↔ ∃ a c', p c = .ok (a, c') ∧ q a c' = .ok r := by
  change (p c >>= fun ac => q ac.1 ac.2) = .ok r ↔ _
  simp [bind_eq_ok]

theorem fail_ne_ok {message : String} {c : Cursor} {r : α × Cursor} :
    (fail message : Parser α) c ≠ .ok r := by
  intro h
  simp only [fail, bind_run_eq_ok] at h
  obtain ⟨_, _, _, h⟩ := h
  split at h <;> obtain ⟨_, _, _, h⟩ := h <;> cases h

theorem rest_of_ident {i : Ident} {c c' : Cursor} (h : ident c = .ok (i, c')) :
    (∃ p, c.rest = .ident i p :: c'.rest) ∧ c'.leftover = c.leftover := by
  obtain ⟨ts, c₁, ha, h⟩ := bind_run_eq_ok.mp h
  cases ha
  cases hr : c.rest <;> rw [hr] at h
  case nil => exact absurd h fail_ne_ok
  case cons t ts =>
    cases t
    case ident j p =>
      by_cases hk : j.isKeyword
      all_goals simp only [hk, Bool.false_eq_true, ↓reduceIte] at h
      case pos => exact absurd h fail_ne_ok
      case neg =>
        cases h
        simp [hr]
    all_goals exact absurd h fail_ne_ok

-- Nothing but one identifier is read as one.
theorem tokens_eq_of_runAll_ident {ts : List Token} {i : Ident}
    (h : runAll ident ts = .ok i) : ∃ p, ts = [.ident i p] := by
  obtain ⟨⟨i, c⟩, hi, h⟩ := bind_eq_ok.mp h
  have ⟨⟨p, hr⟩, hl⟩ := rest_of_ident hi
  simp only [hl] at h
  split at h
  case h_1 => cases h
  case h_2 => cases h
  case h_3 hc => cases h; exact ⟨p, hc ▸ hr⟩

end Parser

theorem text_of_readIdent {text : String} {i : Ident} (hs : ∀ c ∈ text.toList, Scan.Solid c)
    (h : readIdent text = .ok i) : i.text = text := by
  unfold readIdent read at h
  split at h
  case h_1 => cases h
  case h_2 ts ht =>
    split at h
    case h_1 => cases h
    case h_2 hi =>
      cases h
      obtain ⟨p, rfl⟩ := Parser.tokens_eq_of_runAll_ident hi
      exact String.toList_injective (eq_text_of_scan hs ht).symm

end EnvConfig.Source
