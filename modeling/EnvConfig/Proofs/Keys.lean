import EnvConfig.Proofs.Items

-- The key of a leaf shows what the prefix and each name on the path have in letters and numerals, and nothing
-- else of them: two keys are equal if and only if that is the same for all parts.

namespace EnvConfig

-- Texts that are joined by a character are known by what they are joined to, if none of them has it.
theorem eq_of_intercalate_eq {s : String} {sep : Char} {ws ws' : List String} (hs : s.toList = [sep])
    (h : ∀ w ∈ ws, sep ∉ w.toList) (h' : ∀ w ∈ ws', sep ∉ w.toList) (hn : ws ≠ []) (hn' : ws' ≠ [])
    (he : s.intercalate ws = s.intercalate ws') : ws = ws' := by
  have hw {ws : List String} (h : ∀ w ∈ ws, sep ∉ w.toList) (hn : ws ≠ []) :
      (s.intercalate ws).toList.splitOn sep = ws.map String.toList := by
    rw [String.toList_intercalate, hs]
    exact List.splitOn_intercalate _ (List.forall_mem_map.mpr h) (by simpa using hn)
  refine List.map_injective_iff.mpr (fun _ _ => String.toList_inj.mp) ?_
  rw [← hw h hn, ← hw h' hn', he]

namespace Text

-- A character of ASCII is in no run but those that a table starts with.
theorem LetterCase.apply_of_ascii {long : List (Nat × List Nat)} {shifts : List Shift} (n : Nat)
    (hl : long.all (128 ≤ ·.1)) (hs : (shifts.drop n).all (128 ≤ ·.run.first)) {c : Char} (hc : c.toNat < 128) :
    apply long shifts c = apply [] (shifts.take n) c := by
  have hl : long.lookup c.toNat = none := by
    refine List.lookup_eq_none_iff.mpr fun e he => bne_iff_ne.mpr fun h => ?_
    have hb := of_decide_eq_true (List.all_eq_true.mp hl e he)
    omega
  have hs : (shifts.drop n).find? (·.run.contains c.toNat) = none := by
    refine List.find?_eq_none.mpr fun s hm hr => ?_
    have hb := of_decide_eq_true (List.all_eq_true.mp hs s hm)
    have hf := (CharRun.bounds hr).left
    omega
  have hf : shifts.find? (·.run.contains c.toNat) = (shifts.take n).find? (·.run.contains c.toNat) := by
    rw [← List.take_append_drop n shifts, List.find?_append, hs, Option.or_none, List.take_append_drop]
  simp only [apply, hl, hf, List.lookup_nil]

theorem toUpper_of_ascii {c : Char} (h : c.toNat < 128) : toUpper c = [c.toUpper] := by
  rw [toUpper, LetterCase.apply_of_ascii 1 (by decide) (by decide) h]
  exact of_ascii (p := fun c => LetterCase.apply [] (LetterCase.toUpper.take 1) c = [c.toUpper])
    (by decide) h

theorem toLower_of_ascii {c : Char} (h : c.toNat < 128) : toLower c = [c.toLower] := by
  rw [toLower, LetterCase.apply_of_ascii 1 (by decide) (by decide) h]
  exact of_ascii (p := fun c => LetterCase.apply [] (LetterCase.toLower.take 1) c = [c.toLower])
    (by decide) h

theorem classes_of_ascii {c : Char} : c.toNat < 128 →
    isNumeral c = c.isDigit ∧ isLetter c = c.isAlpha ∧ (c.isAlpha → c.toUpper.isUpper) :=
  of_ascii (p := fun c => isNumeral c = c.isDigit ∧ isLetter c = c.isAlpha ∧ (c.isAlpha → c.toUpper.isUpper))
    (by decide)

theorem isNumeral_of_ascii {c : Char} (h : c.toNat < 128) : isNumeral c = c.isDigit :=
  (classes_of_ascii h).left

theorem isLetter_of_ascii {c : Char} (h : c.toNat < 128) : isLetter c = c.isAlpha :=
  (classes_of_ascii h).right.left

theorem isUpper_toUpper_of_ascii {c : Char} (h : c.toNat < 128) (hc : isLetter c) : c.toUpper.isUpper :=
  (classes_of_ascii h).right.right (isLetter_of_ascii h ▸ hc)

namespace LetterCase

-- The capitals of ASCII, and everything beyond ASCII.
def capitals : CharSet := [
  ⟨0x41, 0x5A, 1⟩, ⟨0x80, 0xD7FF, 1⟩, ⟨0xE000, 0x10FFFF, 1⟩]

-- Whether everything from one number to another is in there.
def rises (first last : Nat) : Bool :=
  capitals.any fun r => r.first ≤ first && last ≤ r.last

theorem rises_between {first last n : Nat} (h : rises first last) (hf : first ≤ n) (hl : n ≤ last) :
    rises n n := by
  simp only [rises, List.any_eq_true, Bool.and_eq_true, decide_eq_true_eq] at h ⊢
  obtain ⟨r, hr, h⟩ := h
  exact ⟨r, hr, by omega, by omega⟩

theorem isUpper_of_rises {n : Nat} (h : rises n n) (hn : (Char.ofNat n).toNat < 128) :
    (Char.ofNat n).isUpper := by
  have hv : n.isValidChar := by
    simp [rises, capitals] at h
    unfold Nat.isValidChar
    omega
  have he : (Char.ofNat n).toNat = n := by
    rw [show Char.ofNat n = Char.ofNatAux n hv from dif_pos hv]
    rfl
  rw [he] at hn
  simp only [rises, capitals, List.any_cons, List.any_nil, Bool.or_eq_true, Bool.and_eq_true, decide_eq_true_eq,
    Bool.false_eq_true, or_false] at h
  have hb : 'A'.toNat ≤ n ∧ n ≤ 'Z'.toNat := by
    simp only [Char.reduceToNat]
    omega
  exact isUpper_iff.mpr (he.symm ▸ hb)

end LetterCase

-- The upper case of a letter has no characters of ASCII but its capitals.
theorem isUpper_of_mem_toUpper {c d : Char} (hc : isLetter c) (h : d ∈ toUpper c) (hd : d.toNat < 128) :
    d.isUpper := by
  obtain ⟨codes, n, hm, hn, rfl⟩ | ⟨s, hm, hr, rfl⟩ | rfl := LetterCase.of_mem_apply h
  case inl =>
    have hl : LetterCase.toUpperLong.all (·.2.all fun n => LetterCase.rises n n) := by decide
    exact LetterCase.isUpper_of_rises (List.all_eq_true.mp (List.all_eq_true.mp hl _ hm) n hn) hd
  case inr.inl =>
    have hs : LetterCase.toUpper.all fun s =>
        LetterCase.rises (s.run.first + s.dist).toNat (s.run.last + s.dist).toNat := by decide
    have ⟨hf, hl⟩ := CharRun.bounds hr
    have hr := LetterCase.rises_between (List.all_eq_true.mp hs s hm) (n := (c.toNat + s.dist).toNat)
      (by omega) (by omega)
    exact LetterCase.isUpper_of_rises hr hd
  case inr.inr =>
    rw [toUpper_of_ascii hd, List.mem_singleton] at h
    exact h ▸ isUpper_toUpper_of_ascii hd hc

end Text

open Text

namespace Naming

-- What counts of a part of a key: its letters, in upper case, and its numerals.
def sanitized (part : String) : List Char :=
  (part.toList.filter isAlphanumeric).flatMap fun c => if isNumeral c then [c] else toUpper c

theorem toList_screaming (part : String) : (screaming part).toList = sanitized part := by
  simp only [screaming, String.toList_ofList, sanitized]
  induction part.toList
  case nil => rfl
  case cons c cs hi =>
    by_cases hn : isNumeral c <;> by_cases hl : isLetter c <;> simp [keep, isAlphanumeric, hn, hl, hi]

-- What counts of a part starts with its first letter or numeral.
theorem exists_sanitized_append {part : String} {c : Char} (h : part.toList.find? isAlphanumeric = some c) :
    ∃ tail, sanitized part = (if isNumeral c then [c] else toUpper c) ++ tail := by
  obtain ⟨hc, before, after, hs, hb⟩ := List.find?_eq_some_iff_append.mp h
  have hf : before.filter isAlphanumeric = [] := List.filter_eq_nil_iff.mpr fun a ha => by simpa using hb a ha
  exact ⟨_, by rw [sanitized, hs, List.filter_append, hf, List.filter_cons_of_pos hc, List.nil_append,
    List.flatMap_cons]⟩

theorem of_mem_sanitized {part : String} {c : Char} (h : c ∈ sanitized part) (hc : c.toNat < 128) :
    c.isUpper ∨ c.isDigit := by
  simp only [sanitized, List.mem_flatMap, List.mem_filter] at h
  obtain ⟨d, ⟨-, hd⟩, h⟩ := h
  split at h
  case isTrue hn =>
    obtain rfl := List.mem_singleton.mp h
    exact .inr (isNumeral_of_ascii hc ▸ hn)
  case isFalse hn =>
    have hl : isLetter d := by simpa [isAlphanumeric, hn] using hd
    exact .inl (isUpper_of_mem_toUpper hl h hc)

theorem not_mem_sanitized (part : String) : '_' ∉ sanitized part := fun h =>
  absurd (of_mem_sanitized h (by decide)) (by decide)

theorem toList_of_project? {text q : String} (h : project? text = some q) :
    q.toList = (trim text.toList).flatMap toUpper ∧ q.toList.any isAlphanumeric := by
  simp only [project?, Option.ite_none_right_eq_some, Option.some.injEq] at h
  obtain ⟨ha, rfl⟩ := h
  rw [String.toList_ofList]
  exact ⟨rfl, ha⟩

theorem toList_variableName (project : String) (path : FieldPath) :
    (variableName project path).toList = ['_'].intercalate ((parts project path).map sanitized) := by
  simp [variableName, String.toList_intercalate, Function.comp_def, toList_screaming]

theorem count_intercalate {sep : Char} {word : List Char} {words : List (List Char)}
    (h : ∀ w ∈ word :: words, sep ∉ w) : ([sep].intercalate (word :: words)).count sep = words.length := by
  induction words generalizing word
  case nil => simpa [List.count_eq_zero] using h
  case cons next words hi =>
    have ⟨hw, h⟩ := List.forall_mem_cons.mp h
    simp [List.intercalate_cons_cons, hi h, List.count_eq_zero.mpr hw]

theorem of_mem_variableName {project : String} {path : FieldPath} {c : Char}
    (h : c ∈ (variableName project path).toList) (hc : c.toNat < 128) : c.isUpper ∨ c.isDigit ∨ c = '_' := by
  rw [toList_variableName] at h
  obtain rfl | ⟨_, hw, h⟩ := mem_intercalate_singleton h
  case inl => exact .inr (.inr rfl)
  case inr =>
    obtain ⟨part, -, rfl⟩ := List.mem_map.mp hw
    exact (of_mem_sanitized h hc).imp_right .inl

theorem not_mem_variableName {c : Char} (hc : c.toNat < 128 && !(c.isUpper || c.isDigit || c == '_'))
    (project : String) (path : FieldPath) : c ∉ (variableName project path).toList := by
  intro h
  simp only [Bool.and_eq_true, decide_eq_true_eq, Bool.not_eq_true', Bool.or_eq_false_iff, beq_eq_false_iff_ne] at hc
  obtain ⟨ha, ⟨hu, hd⟩, hs⟩ := hc
  obtain h | h | h := of_mem_variableName h ha
  case inl => exact Bool.false_ne_true (hu.symm.trans h)
  case inr.inl => exact Bool.false_ne_true (hd.symm.trans h)
  case inr.inr => exact hs h

-- As no part has an underscore in it, the parts can be read off the key.
theorem variableName_eq_iff {project project' : String} {path path' : FieldPath} :
    variableName project path = variableName project' path' ↔
      sanitized project :: path.segments.map sanitized = sanitized project' :: path'.segments.map sanitized := by
  have splitOn (project : String) (path : FieldPath) :
      (variableName project path).toList.splitOn '_' = sanitized project :: path.segments.map sanitized := by
    rw [toList_variableName]
    refine List.splitOn_intercalate _ (List.forall_mem_map.mpr fun part _ => ?_) (List.cons_ne_nil _ _)
    exact not_mem_sanitized part
  constructor
  case mp => exact fun h => splitOn project path ▸ splitOn project' path' ▸ congrArg (·.toList.splitOn '_') h
  case mpr =>
    intro h
    rw [← String.toList_inj, toList_variableName, toList_variableName]
    exact congrArg _ h

-- Keys are equal if and only if they have equally many parts, and each two are the same but for what is dropped
-- and for the case of letters. The underscores are those between the parts.
theorem variableName_spells_parts :
    (∀ (p q : String) (a b : FieldPath), variableName p a = variableName q b ↔
      sanitized p :: a.segments.map sanitized = sanitized q :: b.segments.map sanitized) ∧
    ∀ (p : String) (a : FieldPath),
      (variableName p a).toList.count '_' = a.segments.length ∧
      ∀ c ∈ (variableName p a).toList, c.toNat < 128 → c.isUpper ∨ c.isDigit ∨ c = '_' := by
  refine ⟨fun _ _ _ _ => variableName_eq_iff, fun p a => ⟨?count, fun _ => of_mem_variableName⟩⟩
  case count =>
    rw [toList_variableName]
    have h : ∀ w ∈ sanitized p :: a.segments.map sanitized, '_' ∉ w := by simp [not_mem_sanitized]
    simpa [parts] using count_intercalate h

-- The upper case of a sharp s has two characters, and that of a long s is in ASCII. A name without letters leaves
-- two underscores side by side.
theorem variableName_sharp :
    variableName "Straße" ⟨["__", "ſt"]⟩ = variableName "STRASSE" ⟨["", "s_t"]⟩ ∧
    (variableName "Straße" ⟨["__", "ſt"]⟩).toList.count '_' = 2 ∧
    'S' ∈ (variableName "Straße" ⟨["__", "ſt"]⟩).toList ∧ ('S'.isUpper ∨ 'S'.isDigit ∨ 'S' = '_') := by
  have hs : 'S' ∈ (variableName "Straße" ⟨["__", "ſt"]⟩).toList := by decide
  refine ⟨(variableName_spells_parts.left _ _ _ _).mpr (by decide), ?_, hs, ?_⟩
  case refine_1 => exact (variableName_spells_parts.right _ _).left
  case refine_2 => exact (variableName_spells_parts.right _ _).right 'S' hs (by decide)

end Naming
end EnvConfig
