import EnvConfig.Proofs.Integers
import EnvConfig.Proofs.RoundTrip

-- Octets that are no text leave a mark where they are decoded, and a text with a mark in it is a value of a
-- string only. A loader thus reports such octets, or keeps their mark.

namespace EnvConfig.Text.Utf8

section Octets

variable {a b c d : Nat}

theorem encode_ofNat {n : Nat} (h : n.isValidChar) : String.utf8EncodeChar (.ofNat n) =
    if n ≤ 127 then [.ofNat n]
    else if n ≤ 2047 then [.ofNat (n / 64 % 32 + 192), .ofNat (n % 64 + 128)]
    else if n ≤ 65535 then [.ofNat (n / 4096 % 16 + 224), .ofNat (n / 64 % 64 + 128), .ofNat (n % 64 + 128)]
    else [.ofNat (n / 262144 % 8 + 240), .ofNat (n / 4096 % 64 + 128), .ofNat (n / 64 % 64 + 128),
      .ofNat (n % 64 + 128)] := by
  have hn : Char.ofNat n = Char.ofNatAux n h := dif_pos h
  rw [hn]
  rfl

theorem encode_one (ha : a < 0x80) : String.utf8EncodeChar (.ofNat a) = [.ofNat a] := by
  have hv : a.isValidChar := .inl (by omega)
  rw [encode_ofNat hv, if_pos (by omega)]

theorem encode_two (ha : 0xC2 ≤ a) (ha' : a < 0xE0) (hb : 0x80 ≤ b) (hb' : b ≤ 0xBF) :
    String.utf8EncodeChar (.ofNat (64 * (a - 0xC0) + b % 64)) = [.ofNat a, .ofNat b] := by
  let n := 64 * (a - 0xC0) + b % 64
  have hn : 127 < n ∧ n ≤ 2047 := by omega
  have hv : n.isValidChar := .inl (by omega)
  have h₁ : n / 64 % 32 + 192 = a := by omega
  have h₂ : n % 64 + 128 = b := by omega
  simp only [encode_ofNat hv, Nat.not_le.mpr hn.left, hn.right, if_true, if_false, h₁, h₂, n]

-- The second octet is bounded so that the number needs three octets and is no surrogate.
theorem encode_three (ha : 0xE0 ≤ a) (ha' : a < 0xF0) (hb : 0x80 ≤ b) (hb' : b ≤ 0xBF)
    (hlow : a = 0xE0 → 0xA0 ≤ b) (hhigh : a = 0xED → b ≤ 0x9F) (hc : 0x80 ≤ c) (hc' : c ≤ 0xBF) :
    String.utf8EncodeChar (.ofNat (64 * (64 * (a - 0xE0) + b % 64) + c % 64)) = [.ofNat a, .ofNat b, .ofNat c] := by
  let n := 64 * (64 * (a - 0xE0) + b % 64) + c % 64
  have hn : 2047 < n ∧ n ≤ 65535 := by omega
  have hv : n.isValidChar := by
    unfold Nat.isValidChar
    omega
  have h₁ : n / 4096 % 16 + 224 = a := by omega
  have h₂ : n / 64 % 64 + 128 = b := by omega
  have h₃ : n % 64 + 128 = c := by omega
  have hm : ¬n ≤ 127 := by omega
  simp only [encode_ofNat hv, hm, Nat.not_le.mpr hn.left, hn.right, if_true, if_false, h₁, h₂, h₃, n]

theorem encode_four (ha : 0xF0 ≤ a) (ha' : a < 0xF5) (hb : 0x80 ≤ b) (hb' : b ≤ 0xBF)
    (hlow : a = 0xF0 → 0x90 ≤ b) (hhigh : a = 0xF4 → b ≤ 0x8F) (hc : 0x80 ≤ c) (hc' : c ≤ 0xBF)
    (hd : 0x80 ≤ d) (hd' : d ≤ 0xBF) :
    String.utf8EncodeChar (.ofNat (64 * (64 * (64 * (a - 0xF0) + b % 64) + c % 64) + d % 64)) =
      [.ofNat a, .ofNat b, .ofNat c, .ofNat d] := by
  let n := 64 * (64 * (64 * (a - 0xF0) + b % 64) + c % 64) + d % 64
  have hn : 65535 < n ∧ n < 0x110000 := by omega
  have hv : n.isValidChar := .inr (by omega)
  have h₁ : n / 262144 % 8 + 240 = a := by omega
  have h₂ : n / 4096 % 64 + 128 = b := by omega
  have h₃ : n / 64 % 64 + 128 = c := by omega
  have h₄ : n % 64 + 128 = d := by omega
  have hm : ¬n ≤ 127 ∧ ¬n ≤ 2047 := by omega
  simp only [encode_ofNat hv, hm, Nat.not_le.mpr hn.left, if_false, h₁, h₂, h₃, h₄, n]

end Octets

section Steps

variable {a b : Nat} {c : Char} {p q : Partial}

theorem first_ne_char (ha : 0x80 ≤ a) : first a ≠ .char c := by
  have h : ¬a < 0x80 := Nat.not_lt.mpr ha
  simp only [first, if_neg h]
  repeat' split
  all_goals rintro ⟨⟩

theorem first_eq_char (h : first a = .char c) : a < 0x80 ∧ c = .ofNat a := by
  by_cases ha : a < 0x80
  case pos =>
    simp only [first, if_pos ha, First.char.injEq] at h
    exact ⟨ha, h.symm⟩
  case neg => exact absurd h (first_ne_char (Nat.not_lt.mp ha))

-- How many octets are missing after the first one, and what bounds there are for the second.
theorem first_eq_part (h : first a = .part p) :
    p.missing = 1 ∧ 0xC2 ≤ a ∧ a < 0xE0 ∧ p.value = a - 0xC0 ∧ 0x80 ≤ p.low ∧ p.high ≤ 0xBF ∨
    p.missing = 2 ∧ 0xE0 ≤ a ∧ a < 0xF0 ∧ p.value = a - 0xE0 ∧ 0x80 ≤ p.low ∧ p.high ≤ 0xBF ∧
      (a = 0xE0 → 0xA0 ≤ p.low) ∧ (a = 0xED → p.high ≤ 0x9F) ∨
    p.missing = 3 ∧ 0xF0 ≤ a ∧ a < 0xF5 ∧ p.value = a - 0xF0 ∧ 0x80 ≤ p.low ∧ p.high ≤ 0xBF ∧
      (a = 0xF0 → 0x90 ≤ p.low) ∧ (a = 0xF4 → p.high ≤ 0x8F) := by
  grind [first]

theorem missing_of_first (h : first a = .part p) : 1 ≤ p.missing ∧ p.missing ≤ 3 := by
  obtain ⟨h, -⟩ | ⟨h, -⟩ | ⟨h, -⟩ := first_eq_part h
  all_goals omega

theorem next_eq_char : p.next b = .char c ↔
    (p.low ≤ b ∧ b ≤ p.high) ∧ p.missing = 1 ∧ c = .ofNat (64 * p.value + b % 64) := by
  grind [Partial.next]

theorem next_eq_part : p.next b = .part q ↔
    (p.low ≤ b ∧ b ≤ p.high) ∧ p.missing ≠ 1 ∧ q = ⟨64 * p.value + b % 64, p.missing - 1, 0x80, 0xBF⟩ := by
  grind [Partial.next]

theorem missing_of_next (h : p.next b = .part q) : p.missing ≠ 1 ∧ q.missing = p.missing - 1 := by
  obtain ⟨-, hp, rfl⟩ := next_eq_part.mp h
  exact ⟨hp, rfl⟩

end Steps

-- The octets of a character that have been read when others are still missing.
inductive Opened : List UInt8 → Partial → Prop
  | one {a : UInt8} {p} : first a.toNat = .part p → Opened [a] p
  | two {a b : UInt8} {p q} : first a.toNat = .part p → p.next b.toNat = .part q → Opened [a, b] q
  | three {a b c : UInt8} {p q r} : first a.toNat = .part p → p.next b.toNat = .part q →
    q.next c.toNat = .part r → Opened [a, b, c] r

namespace Opened

variable {front : List UInt8} {p q : Partial} {b : UInt8} {c : Char}

theorem next (h : Opened front p) (hq : p.next b.toNat = .part q) : Opened (front ++ [b]) q := by
  cases h
  case one ha => exact two ha hq
  case two ha hb => exact three ha hb hq
  case three p q a b c ha hb hc =>
    -- The fourth octet is the last one.
    have ha := missing_of_first ha
    have hb := missing_of_next hb
    have hc := missing_of_next hc
    have hq := missing_of_next hq
    omega

theorem encode_eq (h : Opened front p) (hc : p.next b.toNat = .char c) :
    String.utf8EncodeChar c = front ++ [b] := by
  obtain ⟨⟨hl, hh⟩, hm, rfl⟩ := next_eq_char.mp hc
  cases h
  case one a ha =>
    obtain ⟨-, ha, ha', hv, hl', hh'⟩ | h | h := first_eq_part ha
    case inl =>
      rw [hv, encode_two ha ha' (by omega) (by omega)]
      simp
    all_goals omega
  case two a a' q ha hq =>
    obtain ⟨⟨hl', hh'⟩, -, rfl⟩ := next_eq_part.mp hq
    simp only at hl hh hm ⊢
    obtain h | ⟨-, ha, ha', hv, hl'', hh'', h⟩ | h := first_eq_part ha
    case inr.inl =>
      rw [hv, encode_three ha ha' (by omega) (by omega) (by omega) (by omega) hl hh]
      simp
    all_goals omega
  case three a a' a'' q r ha hq hr =>
    obtain ⟨⟨hl'', hh''⟩, -, rfl⟩ := next_eq_part.mp hr
    obtain ⟨⟨hl', hh'⟩, -, rfl⟩ := next_eq_part.mp hq
    simp only at hl hh hm hl'' hh'' ⊢
    obtain h | h | ⟨-, ha, ha', hv, hl₁, hh₁, h⟩ := first_eq_part ha
    case inr.inr =>
      rw [hv, encode_four ha ha' (by omega) (by omega) (by omega) (by omega) hl'' hh'' hl hh]
      simp
    all_goals omega

end Opened

-- Octets of which nothing is broken are the encoding of characters, what has been read of the first one included.
theorem exists_chars {bs : List UInt8} :
    (.broken ∉ pieces none bs → ∃ cs : List Char, bs = cs.flatMap String.utf8EncodeChar) ∧
    ∀ {front p}, Opened front p → .broken ∉ pieces (some p) bs →
      ∃ cs : List Char, front ++ bs = cs.flatMap String.utf8EncodeChar := by
  induction bs
  case nil => exact ⟨fun _ => ⟨[], rfl⟩, fun _ h => by simp [pieces] at h⟩
  case cons b bs hi =>
    refine ⟨fun h => ?start, fun ho h => ?further⟩
    case start =>
      rw [pieces, pieces.fromStart] at h
      split at h
      case h_1 c hc =>
        obtain ⟨hb, rfl⟩ := first_eq_char hc
        obtain ⟨cs, rfl⟩ := hi.left (fun hm => h (.tail _ hm))
        refine ⟨.ofNat b.toNat :: cs, ?_⟩
        rw [List.flatMap_cons, encode_one hb, List.singleton_append, UInt8.ofNat_toNat]
      case h_2 p hp => exact hi.right (.one hp) h
      case h_3 => exact absurd (List.mem_cons_self ..) h
    case further front p =>
      rw [pieces] at h
      split at h
      case h_1 c hc =>
        obtain ⟨cs, rfl⟩ := hi.left (fun hm => h (.tail _ hm))
        refine ⟨c :: cs, ?_⟩
        rw [List.flatMap_cons, ho.encode_eq hc, List.append_assoc, List.singleton_append]
      case h_2 q hq =>
        obtain ⟨cs, hcs⟩ := hi.right (ho.next hq) h
        exact ⟨cs, by rw [← hcs, List.append_assoc, List.singleton_append]⟩
      case h_3 =>
        split at h
        all_goals exact absurd (List.mem_cons_self ..) h

theorem replacement_mem_of_not_isValidUTF8 {bs : List UInt8} (h : ¬bs.toByteArray.IsValidUTF8) :
    replacement ∈ decodeLossy bs := by
  refine List.mem_map.mpr ⟨.broken, ?_, rfl⟩
  by_contra hb
  obtain ⟨cs, rfl⟩ := exists_chars.left hb
  exact h ⟨cs, rfl⟩

theorem decodeLossy_of_isValidUTF8 {bs : List UInt8} (h : bs.toByteArray.IsValidUTF8) :
    decodeLossy bs = (String.ofByteArray bs.toByteArray h).toList := by
  rw [← decodeLossy_encode, String.toUTF8_eq_toByteArray, List.toList_data_toByteArray]

end EnvConfig.Text.Utf8

namespace EnvConfig

open Text (replacement)

section Readers

variable {s : List Char}

theorem replacement_mem_tail {c : Char} (h : replacement ∈ c :: s) (hc : replacement ≠ c) : replacement ∈ s :=
  (List.mem_cons.mp h).resolve_left hc

theorem replacement_mem_dropWhile (h : replacement ∈ s) : replacement ∈ s.dropWhile Char.isDigit := by
  rw [← List.takeWhile_append_dropWhile (p := Char.isDigit) (l := s)] at h
  refine (List.mem_append.mp h).resolve_left fun h => ?_
  exact absurd (List.all_eq_true.mp List.all_takeWhile _ h) (by decide)

theorem Decimal.integer?_of_replacement (h : replacement ∈ s) : integer? s = none := by
  refine Option.eq_none_iff_forall_ne_some.mpr fun n hn => ?_
  cases integer?_eq_some.mp hn
  case plain _ hd => exact absurd (hd _ h) (by decide)
  case plus hd => exact absurd (hd _ (replacement_mem_tail h (by decide))) (by decide)
  case minus hd => exact absurd (hd _ (replacement_mem_tail h (by decide))) (by decide)

namespace Duration

theorem Term.replacement_notMem (t : Term) : replacement ∉ t.text := by
  have hu : units.all fun u => !u.1.toList.contains replacement := by decide
  have hu := List.all_eq_true.mp hu _ t.unit_mem
  simp only [text, List.mem_append, not_or]
  refine ⟨⟨fun h => ?whole, fun h => ?decimals⟩, by simpa using hu⟩
  case whole => exact absurd (t.whole_isDigit _ h) (by decide)
  case decimals =>
    cases hd : t.decimals?
    case none => simp [hd] at h
    case some ds =>
      rw [hd] at h
      exact absurd (t.decimals_isDigit ds hd _ (replacement_mem_tail h (by decide))) (by decide)

theorem Spells.replacement_notMem {n : Nat} (h : Spells s n) : replacement ∉ s := by
  cases h
  case zero => decide
  case terms ts _ =>
    simp only [List.mem_flatMap, not_exists, not_and]
    exact fun t _ => t.replacement_notMem

theorem ofText?_of_replacement (h : replacement ∈ s) : ofText? s = none := by
  refine Option.eq_none_iff_forall_ne_some.mpr fun n hn => ?_
  refine (ofText?_eq_some.mp hn).right.left.replacement_notMem ?_
  obtain hs | ⟨-, hs | hs⟩ := withoutSign_cases s
  case inr.inl => exact hs ▸ h
  all_goals exact replacement_mem_tail (hs ▸ h) (by decide)

end Duration

namespace Floating

theorem exponent?_of_replacement (h : replacement ∈ s) : exponent? s = none := by
  have hd {ds : List Char} (h : replacement ∈ ds) : (ds.isEmpty || !ds.all Char.isDigit) = true := by
    simp only [Bool.or_eq_true, Bool.not_eq_true', List.all_eq_false]
    exact .inr ⟨_, h, by decide⟩
  unfold exponent?
  split
  case h_1 negative digits hs =>
    refine if_pos (hd ?_)
    split at hs
    all_goals cases hs
    case h_1 => exact replacement_mem_tail h (by decide)
    case h_2 => exact replacement_mem_tail h (by decide)
    case h_3 => exact h

theorem notation?_of_replacement (h : replacement ∈ s) : notation? s = none := by
  -- What stands behind the digits has to be an exponent.
  have he {c : Char} {rest digits : List Char} {k : Int} (h : replacement ∈ c :: rest) :
      (if c = 'e' || c = 'E' then (exponent? rest).map fun e => (⟨digits, e - k⟩ : Notation) else none) = none := by
    refine ite_eq_right_iff.mpr fun hc => ?_
    rw [exponent?_of_replacement (replacement_mem_tail h ?_), Option.map_none]
    rintro rfl
    cases hc
  have h := replacement_mem_dropWhile h
  unfold notation?
  dsimp only
  split
  case h_1 tail ht =>
    rw [ht] at h
    have h := replacement_mem_dropWhile (replacement_mem_tail h (by decide))
    refine ite_eq_left_iff.mpr fun _ => ?_
    split
    case h_1 hn => exact absurd (hn ▸ h : replacement ∈ []) List.not_mem_nil
    case h_2 hc => exact he (hc ▸ h)
  case h_2 =>
    refine ite_eq_left_iff.mpr fun _ => ?_
    split
    case h_1 hn => exact absurd (hn ▸ h : replacement ∈ []) List.not_mem_nil
    case h_2 hc => exact he (hc ▸ h)

theorem named?_of_replacement {negative : Bool} (h : replacement ∈ s) : named? negative s = none := by
  have h : replacement ∈ asciiLower s := List.mem_map.mpr ⟨_, h, by decide⟩
  have hn {text : String} (ht : replacement ∉ text.toList) : asciiLower s ≠ text.toList := fun hs => ht (hs ▸ h)
  have hi : asciiLower s ≠ "inf".toList := hn (by decide)
  have hl : asciiLower s ≠ "infinity".toList := hn (by decide)
  have hm : asciiLower s ≠ "nan".toList := hn (by decide)
  simp only [named?, isInfinityName, hi, hl, hm, decide_false, Bool.or_false, Bool.false_eq_true, if_false]

theorem ofText?_of_replacement {f : FloatFormat} (h : replacement ∈ s) : ofText? f s = none := by
  have hu {negative : Bool} {s : List Char} (h : replacement ∈ s) : unsigned? f negative s = none := by
    simp only [unsigned?, notation?_of_replacement h, named?_of_replacement h]
  unfold ofText?
  split
  case h_1 s => exact hu (replacement_mem_tail h (by decide))
  case h_2 s => exact hu (replacement_mem_tail h (by decide))
  case h_3 => exact hu h

end Floating

theorem Value.bool?_of_replacement (h : replacement ∈ s) : bool? s = none := by
  have hn {texts : List String} (ht : texts.all (!·.toList.contains replacement)) :
      texts.contains (String.ofList s) = false := by
    refine Bool.eq_false_iff.mpr fun hs => ?_
    have hs := List.all_eq_true.mp ht _ (List.contains_iff_mem.mp hs)
    simp [h] at hs
  simp only [bool?]
  rw [if_neg, if_neg]
  case hnc => exact Bool.eq_false_iff.mp (hn (by decide))
  case hnc => exact Bool.eq_false_iff.mp (hn (by decide))

theorem Parsing.read_of_replacement {p : Parsing} (hp : p.canFail) (h : replacement ∈ s) : p.read s = none := by
  have hi (wide : Primitive) (narrow : Option Primitive) : Value.integer? wide narrow s = none := by
    simp [Value.integer?, Decimal.integer?_of_replacement h]
  cases hr : p.parse
  case raw => simp [Parsing.canFail, hr] at hp
  case bool => simp [Parsing.read, hr, Value.bool?_of_replacement h]
  case duration => simp [Parsing.read, hr, Duration.ofText?_of_replacement h]
  case float => simp [Parsing.read, hr, Floating.ofText?_of_replacement h]
  all_goals simp [Parsing.read, hr, hi]

end Readers

theorem Leaf.canFail_iff (l : Leaf) : l.parsing.canFail ↔ l.primitive ≠ .string := by
  unfold Leaf.parsing
  cases l.primitive <;> decide

namespace Module

-- A leaf's value is reported as one that is not valid, and not as one that is missing.
def Refuses (m : Module) (env : Environment) (l : Leaf) : Prop :=
  ∃ e id, m.load env = some (.error e) ∧ l.invalid = some id ∧ ⟨id, l.key, false⟩ ∈ e.invalid ∧
    ∀ s ∈ e.missing, s.key ≠ l.key

-- A leaf's value stands in every record that is returned, and nothing that is reported is about it.
structure Keeps (m : Module) (f : Flattened) (env : Environment) (l : Leaf) (x : Value) : Prop where
  mem      : ∀ v, m.load env = some (.ok v) → (l.path, x) ∈ v.entries
  noReport : ∀ e, m.load env = some (.error e) → ∀ s ∈ e.errors, s.key ≠ l.key
  -- It is up to the other leaves whether there is a record.
  returns  : (∀ l' ∈ f.leaves, l' ≠ l → (l'.value? env).isSome) → ∃ v, m.load env = some (.ok v)

namespace Serves

variable {m : Module} {r : Record Leaf} {l : Leaf} {env : Environment} {octets : List UInt8} {x : Value}

theorem key_of_mem_missing {t : Sentinel} (h : t ∈ (Progress.after env r.contents).problems.missing) :
    env t.key = none := by
  obtain ⟨l, hl, rfl⟩ := List.mem_map.mp h
  exact Option.isNone_iff_eq_none.mp (List.mem_filter.mp hl).right

-- Who is to blame for a problem.
theorem exists_leaf_of_mem_errors {t : Sentinel} (h : t ∈ (Progress.after env r.contents).problems.errors) :
    ∃ l ∈ r.contents, l.key = t.key ∧ l.value? env = none := by
  obtain h | h := List.mem_append.mp h
  case inl =>
    obtain ⟨l, hl, rfl⟩ := List.mem_map.mp h
    obtain ⟨hl, hu⟩ := List.mem_filter.mp hl
    exact ⟨l, hl, rfl, Leaf.value?_eq_none.mpr (.inl hu)⟩
  case inr =>
    obtain ⟨l, hl, h⟩ := List.mem_filterMap.mp h
    obtain ⟨_, _, rfl⟩ := Option.map_eq_some_iff.mp h
    obtain ⟨hl, hm⟩ := List.mem_filter.mp hl
    exact ⟨l, hl, rfl, Leaf.value?_eq_none.mpr (.inr hm)⟩

theorem refuses (s : m.Serves r) (hl : l ∈ r.contents) (he : env l.key = some octets)
    (hr : l.parsing.read (Text.Utf8.decodeLossy octets) = none) : m.Refuses env l := by
  have hm : l.isMalformed env := by simp [Leaf.isMalformed, Leaf.value?, he, hr]
  obtain ⟨t, ht⟩ := Option.isSome_iff_exists.mp (s.isSome_invalidSentinel? hl hm)
  obtain ⟨id, hi, rfl⟩ := Option.map_eq_some_iff.mp ht
  have hn : ∃ l ∈ r.contents, l.value? env = none := ⟨l, hl, Leaf.value?_eq_none.mpr (.inr hm)⟩
  refine ⟨_, id, s.load_eq_error hn, hi, ?invalid, ?missing⟩
  case invalid => exact List.mem_filterMap.mpr ⟨l, List.mem_filter.mpr ⟨hl, hm⟩, ht⟩
  case missing =>
    intro t ht hk
    cases (hk ▸ key_of_mem_missing ht).symm.trans he

theorem keeps (s : m.Serves r) (hk : (r.contents.map (·.key)).Nodup)
    (hp : r.entries = r.contents.map fun l => (l.path, l)) (hl : l ∈ r.contents)
    (hx : l.value? env = some x) : m.Keeps (.ofRecord r) env l x := by
  refine ⟨fun v hv => ?mem, fun e he t ht htk => ?noReport, fun h => ?returns⟩
  case mem =>
    have hv : v.map some = r.map (·.value? env) := s.load_eq_ok.mp hv
    have hm : (l.path, some x) ∈ (v.map some).entries := by
      rw [hv, Record.entries_map, hp]
      simpa using ⟨l, hl, rfl, hx⟩
    rw [Record.entries_map] at hm
    simpa using hm
  case noReport =>
    obtain rfl := s.eq_problems_of_load he
    obtain ⟨l', hl', hlk, hn⟩ := exists_leaf_of_mem_errors ht
    obtain rfl := List.inj_on_of_nodup_map hk hl' hl (hlk.trans htk)
    cases hx.symm.trans hn
  case returns =>
    have ht : (r.traverse? (·.value? env)).isSome := by
      refine Record.isSome_traverse?.mpr fun l' hl' => ?_
      by_cases he : l' = l
      case pos => exact he ▸ hx ▸ rfl
      case neg => exact h l' hl' he
    obtain ⟨v, hv⟩ := Option.isSome_iff_exists.mp ht
    exact ⟨v, by rw [s.load_eq, hv]⟩

end Serves
end Module

section Flattened

open Text.Utf8

variable {c : Catalog} {root project title : String} {f : Flattened} {o : ModuleOptions} {m : Module}

theorem Module.load_octets (hf : c.flatten root project = .ok f) (hu : Uniqueness.check f.leaves = .ok ())
    (hm : build title f o = .ok m) {env : Environment} {l : Leaf} (hl : l ∈ f.leaves) {octets : List UInt8}
    (he : env l.key = some octets) :
    (¬octets.toByteArray.IsValidUTF8 →
      Text.replacement ∈ decodeLossy octets ∧ (l.primitive ≠ .string → m.Refuses env l)) ∧
    (l.primitive = .string → m.Keeps f env l (.string (String.ofList (decodeLossy octets))) ∧
      ∀ h : octets.toByteArray.IsValidUTF8,
        m.Keeps f env l (.string (String.ofByteArray octets.toByteArray h))) := by
  obtain ⟨r, rfl, hp, s⟩ := serves_of_build hf hu hm
  refine ⟨fun hn => ⟨replacement_mem_of_not_isValidUTF8 hn, fun hs => ?refused⟩, fun hs => ?kept⟩
  case refused =>
    have hc : l.parsing.canFail := l.canFail_iff.mpr hs
    exact s.refuses hl he (Parsing.read_of_replacement hc (replacement_mem_of_not_isValidUTF8 hn))
  case kept =>
    have hc : l.parsing.canFail = false := Bool.eq_false_iff.mpr fun h => l.canFail_iff.mp h hs
    have hx : l.value? env = some (.string (String.ofList (decodeLossy octets))) := by
      simp [Leaf.value?, he, Leaf.read_eq_string hc]
    have hk := s.keeps (Uniqueness.check_eq_ok.mp hu).left hp hl hx
    refine ⟨hk, fun h => ?_⟩
    rwa [decodeLossy_of_isValidUTF8 h, String.ofList_toList] at hk

end Flattened

-- A character that breaks off behind a digit, and one that is written with more octets than it needs.
theorem Module.load_octets_cluster :
    ∃ f m, Catalog.clusters.flatten "Cluster" "APP" = .ok f ∧ Uniqueness.check f.leaves = .ok () ∧
      build "APP" f ⟨none, none⟩ = .ok m ∧ ∃ level ∈ f.leaves, ∃ host ∈ f.leaves, level.key = "APP_LEVEL" ∧
        host.key = "APP_MAIN_HOST" ∧ ∀ env : Environment, env "APP_LEVEL" = some [0x31, 0xE2, 0x82] →
          env "APP_MAIN_HOST" = some [0xC0, 0xAF] →
          m.Refuses env level ∧ m.Keeps f env host (.string "\ufffd\ufffd") := by
  obtain ⟨f, m, hf, hu, hm⟩ := Catalog.cluster_builds
  have hl := Catalog.leaves_of_cluster hf
  obtain ⟨level, hlevel, hi⟩ := List.mem_map.mp <| hl ▸ List.Mem.head _
  obtain ⟨host, hhost, hs⟩ := List.mem_map.mp <| hl ▸ List.Mem.tail _ (.head _)
  simp only [Prod.mk.injEq] at hi hs
  obtain ⟨-, hk, hi⟩ := hi
  obtain ⟨-, hk', hs⟩ := hs
  refine ⟨f, m, hf, hu, hm, level, hlevel, host, hhost, hk, hk', fun env he he' => ⟨?refused, ?kept⟩⟩
  case refused =>
    exact ((load_octets hf hu hm hlevel (hk ▸ he)).left (by decide)).right (by simp [hi])
  case kept =>
    have h := ((load_octets hf hu hm hhost (hk' ▸ he')).right hs).left
    have ht : String.ofList (Text.Utf8.decodeLossy [0xC0, 0xAF]) = "\ufffd\ufffd" := by cbv
    rwa [ht] at h

end EnvConfig
