import EnvConfig.Problem
import Mathlib.Data.List.DropRight

-- Lines and columns count characters, offsets count bytes. The place behind the characters at the start of a text
-- leads back to their bytes, any other place to the end of its line or of the text. What is marked at a place is
-- one blank or one word, and nothing only at the end of the text.

namespace EnvConfig.Source

open Text

section Bytes

variable {s t : List Char}

@[simp]
theorem byteSize_nil : byteSize [] = 0 :=
  rfl

@[simp]
theorem byteSize_cons {c : Char} : byteSize (c :: s) = c.utf8Size + byteSize s :=
  rfl

@[simp]
theorem byteSize_append : byteSize (s ++ t) = byteSize s + byteSize t := by
  induction s
  case nil => simp
  case cons c s hi => simp [hi, Nat.add_assoc]

theorem byteSize_eq_zero : byteSize s = 0 ↔ s = [] := by
  cases s
  case nil => simp
  case cons c s => simp [Nat.ne_of_gt c.utf8Size_pos]

-- An offset at which a character of a text starts, or that of the text's end.
def IsBoundary (s : List Char) (k : Nat) : Prop :=
  ∃ before after, s = before ++ after ∧ byteSize before = k

end Bytes

section Lines

variable {s front line rest : List Char}

theorem lines_append (h : '\n' ∉ line) : lines (line ++ '\n' :: rest) = (line ++ ['\n']) :: lines rest := by
  induction line
  case nil => simp [lines]
  case cons c cs hi =>
    obtain ⟨hc, hcs⟩ := not_or.mp (List.mem_cons.not.mp h)
    simp [lines, Ne.symm hc, hi hcs]

theorem lines_of_notMem (h : '\n' ∉ line) (hn : line ≠ []) : lines line = [line] := by
  induction line
  case nil => contradiction
  case cons c cs hi =>
    obtain ⟨hc, hcs⟩ := not_or.mp (List.mem_cons.not.mp h)
    by_cases he : cs = []
    case pos => simp [lines, Ne.symm hc, he]
    case neg => simp [lines, Ne.symm hc, hi hcs he]

theorem lines_ne_nil (h : s ≠ []) : lines s ≠ [] := by
  cases s
  case nil => contradiction
  case cons c s =>
    unfold lines
    split
    case isTrue => simp
    case isFalse => split <;> simp

-- What ends in a line feed or has no characters consists of whole lines.
def IsWhole (front : List Char) : Prop :=
  ∀ c ∈ front.getLast?, c = '\n'

theorem IsWhole.tail {c : Char} (h : IsWhole (c :: s)) : IsWhole s := by
  cases s
  case nil => simp [IsWhole]
  case cons d s => simpa [IsWhole] using h

theorem IsWhole.ne_nil {c : Char} (h : IsWhole (c :: s)) (hc : c ≠ '\n') : s ≠ [] := by
  rintro rfl
  exact hc (h c rfl)

theorem lines_append_of_isWhole (h : IsWhole front) : lines (front ++ rest) = lines front ++ lines rest := by
  induction front
  case nil => rfl
  case cons c front hi =>
    by_cases hc : c = '\n'
    case pos => simp [lines, hc, hi h.tail]
    case neg =>
      obtain ⟨l, ls, hl⟩ := List.exists_cons_of_ne_nil (lines_ne_nil (h.ne_nil hc))
      simp [lines, hc, hi h.tail, hl]

theorem length_lines_of_isWhole (h : IsWhole front) : (lines front).length = front.count '\n' := by
  induction front
  case nil => rfl
  case cons c front hi =>
    by_cases hc : c = '\n'
    case pos => simp [lines, hc, hi h.tail]
    case neg =>
      obtain ⟨l, ls, hl⟩ := List.exists_cons_of_ne_nil (lines_ne_nil (h.ne_nil hc))
      have hi := hi h.tail
      simp only [hl, List.length_cons] at hi
      simp [lines, hc, hl, hi]

theorem flatten_lines (s : List Char) : (lines s).flatten = s := by
  induction s
  case nil => rfl
  case cons c s hi =>
    unfold lines
    split
    case isTrue hc => simp [hi, hc]
    case isFalse =>
      split
      case h_1 hl => simpa [hl] using hi
      case h_2 hl => simpa [hl] using hi

-- A line of a text, with the number that it has there. What stands in front of it are whole lines, and what stands
-- behind it is its line feed, with everything after that.
structure IsLine (s : List Char) (n : Nat) (front line rest : List Char) : Prop where
  text   : s = front ++ line ++ rest
  number : n = 1 + front.count '\n'
  front  : IsWhole front
  line   : '\n' ∉ line
  rest   : ∀ c ∈ rest.head?, c = '\n'

namespace IsLine

variable {n : Nat}

theorem one_le (h : IsLine s n front line rest) : 1 ≤ n :=
  h.number ▸ Nat.le_add_right ..

theorem le_count (h : IsLine s n front line rest) : n ≤ 1 + s.count '\n' := by
  have hs := h.text
  rw [List.append_assoc] at hs
  rw [h.number, hs, List.count_append]
  omega

-- The first line of a text.
theorem first (s : List Char) : IsLine s 1 [] (s.takeWhile (· ≠ '\n')) (s.dropWhile (· ≠ '\n')) where
  text   := by simp
  number := rfl
  front  := by simp [IsWhole]
  line   := fun h => by simpa using List.mem_takeWhile_imp h
  rest   := by
    intro c hc
    have hd := List.head?_dropWhile_not (· ≠ '\n') s
    rw [Option.mem_def.mp hc] at hd
    simpa using hd

-- A line of what stands behind the first line feed.
theorem next {head tail : List Char} (hh : '\n' ∉ head) (h : IsLine tail n front line rest) :
    IsLine (head ++ '\n' :: tail) (n + 1) (head ++ '\n' :: front) line rest where
  text   := by simp [h.text]
  number := by
    have hc := List.count_eq_zero.mpr hh
    simp [h.number, hc]
    omega
  front  := by
    intro c hc
    cases front
    case nil => simpa [eq_comm] using hc
    case cons d front => exact h.front c (by simpa using hc)
  line   := h.line
  rest   := h.rest

end IsLine

-- The lines of a text have the numbers from one on, up to the number of its line feeds and one more.
theorem exists_isLine_iff {n : Nat} :
    (∃ front line rest, IsLine s n front line rest) ↔ 1 ≤ n ∧ n ≤ 1 + s.count '\n' := by
  constructor
  case mp =>
    rintro ⟨_, _, _, h⟩
    exact ⟨h.one_le, h.le_count⟩
  case mpr =>
    rintro ⟨ho, hn⟩
    obtain ⟨n, rfl⟩ := Nat.exists_eq_add_of_le' ho
    induction n generalizing s
    case zero => exact ⟨_, _, _, .first s⟩
    case succ n hi =>
      have hm : '\n' ∈ s := List.count_pos_iff.mp (by omega)
      obtain ⟨head, tail, rfl, hh⟩ := List.eq_append_cons_of_mem hm
      have hc := List.count_eq_zero.mpr hh
      simp only [List.count_append, hc, List.count_cons_self] at hn
      obtain ⟨_, _, _, h⟩ := hi (s := tail) (by omega) (by omega)
      exact ⟨_, _, _, h.next hh⟩

theorem length_lines_le (s : List Char) : (lines s).length ≤ 1 + s.count '\n' := by
  induction s
  case nil => simp [lines]
  case cons c s hi =>
    by_cases hc : c = '\n'
    case pos =>
      simp only [lines, hc, if_true, List.length_cons, List.count_cons_self]
      omega
    case neg =>
      simp only [lines, hc, if_false, List.count_cons_of_ne hc]
      split
      case h_1 => simp
      case h_2 hl => simpa [hl] using hi

end Lines

namespace Place

variable {s front line rest : List Char} {n column : Nat}

theorem withoutLineFeed_of_notMem (h : '\n' ∉ line) : withoutLineFeed line = line :=
  if_neg fun hl => h (List.mem_of_getLast? hl)

theorem offsetInLine_of_notMem (h : '\n' ∉ line) : offsetInLine line column = byteSize (line.take column) := by
  unfold offsetInLine
  split
  case isTrue => rfl
  case isFalse hc => rw [withoutLineFeed_of_notMem h, List.take_of_length_le (Nat.not_lt.mp hc)]

theorem offsetInLine_lineFeed (line : List Char) (column : Nat) :
    offsetInLine (line ++ ['\n']) column = byteSize (line.take column) := by
  unfold offsetInLine
  split
  case isTrue hc =>
    have hc : column ≤ line.length := by simpa [Nat.lt_succ_iff] using hc
    rw [List.take_append_of_le_length hc]
  case isFalse hc =>
    have hc : line.length ≤ column := by simp at hc; omega
    simp [withoutLineFeed, List.take_of_length_le hc]

theorem offset_of_getElem? {l : List Char} (h : (lines s)[n]? = some l) :
    offset ⟨n + 1, column⟩ s = byteSize ((lines s).take n).flatten + offsetInLine l column := by
  simp [offset, h]

theorem offset_of_getElem?_eq_none (h : (lines s)[n]? = none) : offset ⟨n + 1, column⟩ s = byteSize s := by
  simp [offset, h]

-- A column counts the characters of its line, as far as there are any.
theorem offset_of_isLine (h : IsLine s n front line rest) (column : Nat) :
    offset ⟨n, column⟩ s = byteSize (front ++ line.take column) := by
  have hs : lines s = lines front ++ lines (line ++ rest) := by
    rw [h.text, List.append_assoc]
    exact lines_append_of_isWhole h.front
  have hn : n = (lines front).length + 1 := by rw [h.number, length_lines_of_isWhole h.front, Nat.add_comm]
  have hg : (lines s)[(lines front).length]? = (lines (line ++ rest)).head? := by
    rw [hs, List.getElem?_append_right (Nat.le_refl _), Nat.sub_self, List.head?_eq_getElem?]
  have ht : ((lines s).take (lines front).length).flatten = front := by rw [hs, List.take_left, flatten_lines]
  rw [hn]
  cases hr : rest
  case cons c tail =>
    obtain rfl := h.rest c (by rw [hr]; rfl)
    have hg := hg.trans (by rw [hr, lines_append h.line, List.head?_cons])
    rw [offset_of_getElem? hg, ht, offsetInLine_lineFeed, byteSize_append]
  case nil =>
    have hr : line ++ rest = line := by rw [hr, List.append_nil]
    rw [hr] at hg
    by_cases he : line = []
    case pos =>
      have hg : (lines s)[(lines front).length]? = none := by
        rw [hg, he]
        rfl
      rw [offset_of_getElem?_eq_none hg, h.text, List.append_assoc, hr, he, List.take_nil]
    case neg =>
      have hg := hg.trans (by rw [lines_of_notMem h.line he, List.head?_cons])
      rw [offset_of_getElem? hg, ht, offsetInLine_of_notMem h.line, byteSize_append]

theorem offset_of_count_lt (h : 1 + s.count '\n' < n) : offset ⟨n, column⟩ s = byteSize s := by
  obtain ⟨n, rfl⟩ := Nat.exists_eq_add_of_le' (Nat.one_le_of_lt h)
  have hn : (lines s)[n]? = none := by
    have hl := length_lines_le s
    exact List.getElem?_eq_none (by omega)
  exact offset_of_getElem?_eq_none hn

-- The place behind the characters at the start of a text: their line feeds make lines, and those behind the last
-- line feed are the columns.
def behind (before : List Char) : Place where
  line   := 1 + before.count '\n'
  column := (before.rtakeWhile (· ≠ '\n')).length

theorem lineFeed_notMem_rtakeWhile (before : List Char) : '\n' ∉ before.rtakeWhile (· ≠ '\n') := fun h => by
  simpa using List.mem_rtakeWhile_imp h

-- What stands between the last line feed and a place is the start of a line.
theorem isLine_behind (before after : List Char) :
    IsLine (before ++ after) (behind before).line (before.rdropWhile (· ≠ '\n'))
      (before.rtakeWhile (· ≠ '\n') ++ after.takeWhile (· ≠ '\n')) (after.dropWhile (· ≠ '\n')) where
  text   := by
    rw [← List.append_assoc, List.rdropWhile_append_rtakeWhile, List.append_assoc, List.takeWhile_append_dropWhile]
  number := by
    have hb := congrArg (·.count '\n') (List.rdropWhile_append_rtakeWhile (p := (· ≠ '\n')) (l := before))
    rw [List.count_append, List.count_eq_zero.mpr (lineFeed_notMem_rtakeWhile before)] at hb
    exact congrArg (1 + ·) hb.symm
  front  := by
    intro c hc
    obtain ⟨hn, rfl⟩ := List.mem_getLast?_eq_getLast hc
    simpa using List.rdropWhile_last_not (· ≠ '\n') before hn
  line   := by
    intro h
    cases List.mem_append.mp h
    case inl h => exact lineFeed_notMem_rtakeWhile before h
    case inr h => exact (IsLine.first after).line h
  rest   := (IsLine.first after).rest

theorem offset_behind (before after : List Char) : (behind before).offset (before ++ after) = byteSize before := by
  have h := offset_of_isLine (isLine_behind before after) (behind before).column
  rw [behind, List.take_left, List.rdropWhile_append_rtakeWhile] at h
  exact h

theorem offset_counts_bytes (s : List Char) :
    (∀ before after, s = before ++ after → (behind before).offset s = byteSize before) ∧
    (∀ n, (∃ front line rest, IsLine s n front line rest) ↔ 1 ≤ n ∧ n ≤ 1 + s.count '\n') ∧
    (∀ n front line rest, IsLine s n front line rest →
      ∀ column, line.length < column → offset ⟨n, column⟩ s = byteSize (front ++ line)) ∧
    ∀ n, 1 + s.count '\n' < n → ∀ column, offset ⟨n, column⟩ s = byteSize s := by
  refine ⟨?behind, fun n => exists_isLine_iff, ?past, fun n hn column => offset_of_count_lt hn⟩
  case behind =>
    rintro before after rfl
    exact offset_behind before after
  case past =>
    intro n front line rest h column hc
    rw [offset_of_isLine h, List.take_of_length_le (Nat.le_of_lt hc)]

-- The first line ends in two characters, the second one is empty, and two characters have two bytes.
theorem offset_of_mixed_text :
    let s := "é\r\n\nµs".toList
    s = "é\r\n\nµ".toList ++ "s".toList ∧ offset ⟨3, 1⟩ s = 7 ∧
      IsLine s 1 [] "é\r".toList "\n\nµs".toList ∧ "é\r".toList.length < 9 ∧ offset ⟨1, 9⟩ s = 3 ∧
      1 + s.count '\n' < 4 ∧ offset ⟨4, 0⟩ s = 8 := by
  intro s
  obtain ⟨hb, -, hl, hp⟩ := offset_counts_bytes s
  have hs : s = "é\r\n\nµ".toList ++ "s".toList := by decide
  have h1 : IsLine s 1 [] "é\r".toList "\n\nµs".toList :=
    ⟨by decide, by decide, by simp [IsWhole], by decide, by simp⟩
  have hc : 1 + s.count '\n' < 4 := by decide
  exact ⟨hs, hb _ _ hs, h1, by decide, hl 1 _ _ _ h1 9 (by decide), hc, hp 4 hc 0⟩

theorem isBoundary_offset (p : Place) (s : List Char) : IsBoundary s (p.offset s) := by
  by_cases hp : 1 ≤ p.line ∧ p.line ≤ 1 + s.count '\n'
  case pos =>
    obtain ⟨front, line, rest, h⟩ := exists_isLine_iff.mpr hp
    refine ⟨front ++ line.take p.column, line.drop p.column ++ rest, ?_, (offset_of_isLine h p.column).symm⟩
    rw [List.append_assoc, ← List.append_assoc (line.take _), List.take_append_drop, h.text, List.append_assoc]
  case neg =>
    have ho : p.offset s = byteSize s := by
      obtain hz | hc : p.line = 0 ∨ 1 + s.count '\n' < p.line := by omega
      case inl => simp [offset, hz]
      case inr => exact offset_of_count_lt hc
    exact ⟨s, [], by simp, ho.symm⟩

end Place

namespace Span

variable {s before after : List Char}

theorem textFrom_byteSize (before after : List Char) :
    textFrom (byteSize before) (before ++ after) = some after := by
  induction before
  case nil => simp [textFrom]
  case cons c before hi =>
    obtain ⟨k, hk⟩ := Nat.exists_eq_add_of_le' (Nat.le_trans c.utf8Size_pos (Nat.le_add_right _ (byteSize before)))
    have hb : k + 1 - c.utf8Size = byteSize before := by omega
    have hc : c.utf8Size ≤ k + 1 := by omega
    rw [byteSize_cons, hk, List.cons_append, textFrom, if_pos hc, hb, hi]

-- What is marked is a blank, or a word with a blank behind it or nothing. Only at the end of a text is it nothing.
theorem firstWord_cases (after : List Char) :
    ∃ rest, after = firstWord after ++ rest ∧ (firstWord after = [] → after = []) ∧
      ((∃ c, firstWord after = [c] ∧ isBlank c) ∨
        (∀ c ∈ firstWord after, ¬isBlank c) ∧ ∀ c ∈ rest.head?, isBlank c) := by
  cases after
  case nil => exact ⟨[], by simp [firstWord]⟩
  case cons c cs =>
    by_cases hc : isBlank c
    case pos => exact ⟨cs, by simp [firstWord, hc]⟩
    case neg =>
      refine ⟨cs.dropWhile (!isBlank ·), ?text, ?empty, .inr ⟨?word, ?blank⟩⟩
      case text => simp [firstWord, hc]
      case empty => simp [firstWord, hc]
      case word =>
        simp only [firstWord, hc, Bool.false_eq_true, if_false, List.forall_mem_cons, not_false_eq_true, true_and]
        exact fun d hd => by simpa using List.mem_takeWhile_imp hd
      case blank =>
        intro d hd
        have hn := List.head?_dropWhile_not (!isBlank ·) cs
        rw [Option.mem_def.mp hd] at hn
        simpa using hn

-- A span that can be shown below its text.
structure IsPrintable (span : Span) (s : List Char) : Prop where
  inside : span.offset + span.length ≤ byteSize s
  starts : IsBoundary s span.offset
  ends   : IsBoundary s (span.offset + span.length)
  empty  : span.length = 0 → span.offset = byteSize s
  -- It marks one blank, or all characters up to the next one.
  marks  : span.length ≠ 0 → ∃ before marked after, s = before ++ marked ++ after ∧
    byteSize before = span.offset ∧ byteSize marked = span.length ∧
    ((∃ c, marked = [c] ∧ isBlank c) ∨ (∀ c ∈ marked, ¬isBlank c) ∧ ∀ c ∈ after.head?, isBlank c)

theorem isPrintable_firstWord (before after : List Char) :
    IsPrintable ⟨byteSize before, byteSize (firstWord after)⟩ (before ++ after) := by
  obtain ⟨rest, hr, he, hm⟩ := firstWord_cases after
  have hs : before ++ after = before ++ firstWord after ++ rest := by rw [List.append_assoc, ← hr]
  refine ⟨?inside, ⟨_, _, rfl, rfl⟩, ⟨_, _, hs, byteSize_append⟩, ?empty, fun _ => ⟨_, _, _, hs, rfl, rfl, hm⟩⟩
  case inside =>
    rw [hs, byteSize_append, byteSize_append]
    exact Nat.le_add_right ..
  case empty =>
    intro h
    rw [he (byteSize_eq_zero.mp h), List.append_nil]

theorem ofPlace_eq {p : Place} (h : p.offset (before ++ after) = byteSize before) :
    ofPlace p (before ++ after) = ⟨byteSize before, byteSize (firstWord after)⟩ := by
  simp [ofPlace, h, textFrom_byteSize]

end Span
end EnvConfig.Source

namespace EnvConfig.Problem

open Source

-- Wherever a text is said to be wrong, there is something to show.
theorem atPlace_marks (name text : String) (place : Place) (reason : String) :
    ∃ span, atPlace name text place reason = .parse name span reason ∧
      span.offset = place.offset text.toList ∧ span.IsPrintable text.toList := by
  obtain ⟨before, after, hs, hb⟩ := place.isBoundary_offset text.toList
  refine ⟨_, rfl, ?_⟩
  rw [hs] at hb ⊢
  rw [Span.ofPlace_eq hb.symm]
  exact ⟨hb, Span.isPrintable_firstWord before after⟩

end EnvConfig.Problem
