import EnvConfig.Text.Utf8

-- Decoding undoes encoding: octets that are the encoding of a text are read as that text, and nothing in
-- them is replaced.

namespace EnvConfig.Text.Utf8

section Octets

variable {b n : Nat} {bs : List UInt8} {c : Char} {p q : Partial}

theorem toNat_octet (hb : b < 256) : (UInt8.ofNat b).toNat = b :=
  UInt8.toNat_ofNat_of_lt' hb

theorem pieces_of_first_char (hb : b < 256) (h : first b = .char c) :
    pieces none (.ofNat b :: bs) = .char c :: pieces none bs := by
  simp [pieces, pieces.fromStart, toNat_octet hb, h]

theorem pieces_of_first_part (hb : b < 256) (h : first b = .part p) :
    pieces none (.ofNat b :: bs) = pieces (some p) bs := by
  simp [pieces, pieces.fromStart, toNat_octet hb, h]

theorem pieces_of_next_char (hb : b < 256) (h : p.next b = .char c) :
    pieces (some p) (.ofNat b :: bs) = .char c :: pieces none bs := by
  simp [pieces, toNat_octet hb, h]

theorem pieces_of_next_part (hb : b < 256) (h : p.next b = .part q) :
    pieces (some p) (.ofNat b :: bs) = pieces (some q) bs := by
  simp [pieces, toNat_octet hb, h]

theorem first_of_one (h : n < 0x80) : first n = .char (.ofNat n) := by
  grind [first]

theorem first_of_two (h₁ : 0x80 ≤ n) (h₂ : n < 0x800) :
    first (n / 64 + 0xC0) = .part ⟨n / 64, 1, 0x80, 0xBF⟩ := by
  grind [first]

-- The bounds leave room for the next six bits, as the number needs three octets and is no surrogate.
theorem first_of_three (h₁ : 0x800 ≤ n) (h₂ : n < 0x10000) (hn : n < 0xD800 ∨ 0xDFFF < n) :
    ∃ low high, first (n / 4096 + 0xE0) = .part ⟨n / 4096, 2, low, high⟩ ∧
      low ≤ n / 64 % 64 + 0x80 ∧ n / 64 % 64 + 0x80 ≤ high := by
  refine ⟨if n < 0x1000 then 0xA0 else 0x80, if n / 4096 = 0xD then 0x9F else 0xBF, ?_, ?_, ?_⟩
  all_goals grind [first]

theorem first_of_four (h₁ : 0x10000 ≤ n) (h₂ : n < 0x110000) :
    ∃ low high, first (n / 262144 + 0xF0) = .part ⟨n / 262144, 3, low, high⟩ ∧
      low ≤ n / 4096 % 64 + 0x80 ∧ n / 4096 % 64 + 0x80 ≤ high := by
  refine ⟨if n < 0x40000 then 0x90 else 0x80, if n < 0x100000 then 0xBF else 0x8F, ?_, ?_, ?_⟩
  all_goals grind [first]

theorem next_of_one {value low high d : Nat} (hd : d < 64) (hl : low ≤ d + 0x80) (hh : d + 0x80 ≤ high) :
    Partial.next ⟨value, 1, low, high⟩ (d + 0x80) = .char (.ofNat (64 * value + d)) := by
  have hm : (d + 0x80) % 64 = d := by omega
  simp [Partial.next, hl, hh, hm]

theorem next_of_more {value missing low high d : Nat} (hd : d < 64) (hl : low ≤ d + 0x80)
    (hh : d + 0x80 ≤ high) :
    Partial.next ⟨value, missing + 2, low, high⟩ (d + 0x80) =
      .part ⟨64 * value + d, missing + 1, 0x80, 0xBF⟩ := by
  have hm : (d + 0x80) % 64 = d := by omega
  simp [Partial.next, hl, hh, hm]

theorem pieces_encode (c : Char) (bs : List UInt8) :
    pieces none (String.utf8EncodeChar c ++ bs) = .char c :: pieces none bs := by
  have hv : c.val.toNat < 0xD800 ∨ 0xDFFF < c.val.toNat ∧ c.val.toNat < 0x110000 := c.valid
  have hc : Char.ofNat c.val.toNat = c := Char.ofNat_toNat c
  unfold String.utf8EncodeChar
  generalize c.val.toNat = n at hv hc
  simp only
  split
  case isTrue h =>
    calc
      _ = .char (.ofNat n) :: pieces none bs := pieces_of_first_char (by omega) (first_of_one (by omega))
      _ = _ := by rw [hc]
  case isFalse h₁ =>
    split
    case isTrue h₂ =>
      rw [Nat.mod_eq_of_lt (by omega)]
      calc
        _ = pieces (some ⟨n / 64, 1, 0x80, 0xBF⟩) (.ofNat (n % 64 + 0x80) :: bs) :=
          pieces_of_first_part (by omega) (first_of_two (by omega) (by omega))
        _ = .char (.ofNat (64 * (n / 64) + n % 64)) :: pieces none bs :=
          pieces_of_next_char (by omega) (next_of_one (by omega) (by omega) (by omega))
        _ = _ := by rw [Nat.div_add_mod, hc]
    case isFalse h₂ =>
      split
      case isTrue h₃ =>
        have ⟨low, high, hf, hl, hh⟩ := first_of_three (n := n) (by omega) (by omega) (by omega)
        have hn : 64 * (64 * (n / 4096) + n / 64 % 64) + n % 64 = n := by omega
        rw [Nat.mod_eq_of_lt (by omega)]
        calc
          _ = pieces (some ⟨n / 4096, 2, low, high⟩)
              (.ofNat (n / 64 % 64 + 0x80) :: .ofNat (n % 64 + 0x80) :: bs) :=
            pieces_of_first_part (by omega) hf
          _ = pieces (some ⟨64 * (n / 4096) + n / 64 % 64, 1, 0x80, 0xBF⟩) (.ofNat (n % 64 + 0x80) :: bs) :=
            pieces_of_next_part (by omega) (next_of_more (by omega) hl hh)
          _ = .char (.ofNat (64 * (64 * (n / 4096) + n / 64 % 64) + n % 64)) :: pieces none bs :=
            pieces_of_next_char (by omega) (next_of_one (by omega) (by omega) (by omega))
          _ = _ := by rw [hn, hc]
      case isFalse h₃ =>
        have ⟨low, high, hf, hl, hh⟩ := first_of_four (n := n) (by omega) (by omega)
        have hn : 64 * (64 * (64 * (n / 262144) + n / 4096 % 64) + n / 64 % 64) + n % 64 = n := by omega
        rw [Nat.mod_eq_of_lt (by omega)]
        calc
          _ = pieces (some ⟨n / 262144, 3, low, high⟩)
              (.ofNat (n / 4096 % 64 + 0x80) :: .ofNat (n / 64 % 64 + 0x80) :: .ofNat (n % 64 + 0x80) :: bs) :=
            pieces_of_first_part (by omega) hf
          _ = pieces (some ⟨64 * (n / 262144) + n / 4096 % 64, 2, 0x80, 0xBF⟩)
              (.ofNat (n / 64 % 64 + 0x80) :: .ofNat (n % 64 + 0x80) :: bs) :=
            pieces_of_next_part (by omega) (next_of_more (by omega) hl hh)
          _ = pieces (some ⟨64 * (64 * (n / 262144) + n / 4096 % 64) + n / 64 % 64, 1, 0x80, 0xBF⟩)
              (.ofNat (n % 64 + 0x80) :: bs) :=
            pieces_of_next_part (by omega) (next_of_more (by omega) (by omega) (by omega))
          _ = .char (.ofNat (64 * (64 * (64 * (n / 262144) + n / 4096 % 64) + n / 64 % 64) + n % 64)) ::
              pieces none bs :=
            pieces_of_next_char (by omega) (next_of_one (by omega) (by omega) (by omega))
          _ = _ := by rw [hn, hc]

end Octets

@[simp] theorem decodeLossy_nil : decodeLossy [] = [] := by
  simp [decodeLossy, pieces]

theorem pieces_encode_chars (cs : List Char) :
    pieces none (cs.flatMap String.utf8EncodeChar) = cs.map .char := by
  induction cs
  case nil => simp [pieces]
  case cons c cs hi => rw [List.flatMap_cons, pieces_encode, hi, List.map_cons]

theorem octets_eq (text : String) :
    text.toUTF8.data.toList = text.toList.flatMap String.utf8EncodeChar := by
  calc
    _ = text.toList.utf8Encode.data.toList := by
      rw [String.toUTF8_eq_toByteArray, ← String.toByteArray_ofList, String.ofList_toList]
    _ = _ := by rw [List.utf8Encode, List.toList_data_toByteArray]

theorem decodeLossy_encode (text : String) : decodeLossy text.toUTF8.data.toList = text.toList := by
  rw [decodeLossy, octets_eq, pieces_encode_chars, List.map_map]
  exact List.map_id _

theorem decode?_encode (text : String) : decode? text.toUTF8.data.toList = some text.toList := by
  rw [decode?, octets_eq, pieces_encode_chars]
  induction text.toList
  case nil => rfl
  case cons c cs hi => rw [List.map_cons, List.mapM_cons, hi]; rfl

end EnvConfig.Text.Utf8
