import EnvConfig.Proofs.Names
import Mathlib.Data.List.TakeWhile

-- What is read as an identifier: every word but the keywords, and no text that starts with a digit.

namespace EnvConfig

open Text

namespace Source

namespace Scan

section Words

variable {s : List Char} {c : Char}

-- The characters that start or end a quoted text, and the one that makes a name raw.
def marks : List Char :=
  ['"', '\'', '#']

theorem not_isName_of_ascii (h : c.toNat < 128 && !(c.isAlphanum || c == '_')) :
    isNameStart c = false ∧ isNameContinue c = false := by
  simp only [Bool.and_eq_true, decide_eq_true_eq, Bool.not_eq_true'] at h
  obtain ⟨ha, hn⟩ := h
  obtain ⟨hs, hc⟩ := isName_of_ascii ha
  rw [hs, hc, hn]
  simp only [Char.isAlphanum, Bool.or_eq_false_iff] at hn
  simp [hn]

theorem notMem_of_isWord (hw : isWord s) (hc : c ∈ marks) : c ∉ s := by
  have hm : marks.all fun c => c.toNat < 128 && !(c.isAlphanum || c == '_') := by decide
  obtain ⟨hs, hn⟩ := not_isName_of_ascii (List.all_eq_true.mp hm c hc)
  intro h
  cases start_or_continue_of_isWord hw h
  case inl h => exact Bool.false_ne_true (hs.symm.trans h)
  case inr h => exact Bool.false_ne_true (hn.symm.trans h)

theorem not_isDigit_of_isNameStart (h : isNameStart c) : c.isDigit = false := by
  refine Bool.eq_false_iff.mpr fun hd => ?_
  rw [Char.isDigit_iff_toNat] at hd
  have hc : c.toNat < 128 := Nat.lt_of_le_of_lt hd.right (by decide)
  rw [(isName_of_ascii hc).left] at h
  simp only [Bool.or_eq_true, isAlpha_iff, isUpper_iff, isLower_iff, Char.reduceToNat, beq_iff_eq] at h hd
  obtain h | rfl := h
  case inl => omega
  case inr => simp at hd

theorem mem_of_startsWith {lead : String} (h : startsWith lead s) (hc : c ∈ lead.toList) : c ∈ s :=
  (List.isPrefixOf_iff_prefix.mp h).subset hc

theorem startsWith_of_notMem {lead : String} (hc : c ∈ lead.toList) (h : c ∉ s) : startsWith lead s = false :=
  Bool.eq_false_iff.mpr fun hs => h (mem_of_startsWith hs hc)

theorem startsLiteral_of_isWord (hw : isWord s) : startsLiteral s = false := by
  have hl : ["r\"", "r#\"", "r##", "b\"", "b'", "br\"", "br#", "c\"", "cr\"", "cr#"].all fun lead =>
      marks.any (lead.toList.contains ·) := by decide
  refine List.any_eq_false.mpr fun lead hm => ?_
  obtain ⟨c, hc, hm⟩ := List.any_eq_true.mp (List.all_eq_true.mp hl lead hm)
  simp [startsWith_of_notMem (List.contains_iff_mem.mp hm) (notMem_of_isWord hw hc)]

theorem rawQuoted_of_notMem {q : Quoted} (h : '"' ∉ s) : rawQuoted q s = none := by
  unfold rawQuoted
  simp only
  split
  case h_1 cs hs => exact absurd (List.mem_of_mem_drop (hs ▸ List.Mem.head cs)) h
  case h_2 => rfl

theorem quoted_of_notMem {q : Quoted} {lead : String} (h : '"' ∉ s) : quoted q lead s = none := by
  have hl : literally (lead ++ "\"") s = none := if_neg <| Bool.eq_false_iff.mp <|
    startsWith_of_notMem (c := '"') (by simp) h
  simp only [quoted, hl]
  refine Option.bind_eq_none_iff.mpr fun rest hr => rawQuoted_of_notMem fun hm => h ?_
  simp only [literally, Option.ite_none_right_eq_some, Option.some.injEq] at hr
  exact List.mem_of_mem_drop (hr.right ▸ hm)

theorem byte_of_notMem (h : '\'' ∉ s) : byte s = none := by
  unfold byte
  split
  case h_1 => simp at h
  case h_2 => simp at h
  case h_3 => rfl

theorem character_of_notMem (h : '\'' ∉ s) : character s = none := by
  unfold character
  split
  case h_1 => simp at h
  case h_2 => simp at h
  case h_3 => rfl

theorem float_of_not_isDigit {cs : List Char} (h : c.isDigit = false) : float (c :: cs) = none := by
  simp [float, floatDigits, h]

theorem int_of_not_isDigit {cs : List Char} (h : c.isDigit = false) : int (c :: cs) = none := by
  have hd : digits (c :: cs) = digitsFrom 10 true (c :: cs) := by
    unfold digits
    split
    case h_4 => rfl
    all_goals
      rename_i hc
      cases (List.cons.inj hc).left
      cases h
  rw [int, hd]
  by_cases hc : c = '_' <;> simp [digitsFrom, h, hc]

theorem literal_of_isWord (hw : isWord s) : literal s = none := by
  have hq := notMem_of_isWord hw (c := '"') (by decide)
  have hs := notMem_of_isWord hw (c := '\'') (by decide)
  cases s
  case nil => cases hw
  case cons c cs =>
    simp only [isWord, Bool.and_eq_true] at hw
    have hd := not_isDigit_of_isNameStart hw.left
    simp only [literal, quoted_of_notMem hq, byte_of_notMem hs, character_of_notMem hs, float_of_not_isDigit hd,
      int_of_not_isDigit hd]
    rfl

theorem punct_of_isWord (hw : isWord s) : punct s = none := by
  have hp : "~!@#$%^&*-=+|;:,<.>/?'".toList.all fun c => c.toNat < 128 && !(c.isAlphanum || c == '_') := by
    decide
  cases s
  case nil => cases hw
  case cons c cs =>
    have hn : isPunct c = false := by
      simp only [isWord, Bool.and_eq_true] at hw
      refine Bool.eq_false_iff.mpr fun hc => ?_
      have hc := not_isName_of_ascii (List.all_eq_true.mp hp c (List.contains_iff_mem.mp hc))
      exact Bool.false_ne_true (hc.left.symm.trans hw.left)
    have hs : startsPunct (c :: cs) = false := by simp [startsPunct, hn]
    simp only [punct, hs]
    rfl

theorem splitName_of_isWord (hw : isWord s) : splitName s = some (s, []) := by
  cases s
  case nil => cases hw
  case cons c cs =>
    simp only [isWord, Bool.and_eq_true, List.all_eq_true] at hw
    rw [splitName, if_pos hw.left, List.takeWhile_eq_self_iff.mpr hw.right, List.dropWhile_eq_nil_iff.mpr hw.right]

theorem ident_of_isWord (hw : isWord s) (hn : isWord (String.ofList s).toList) :
    ident s = some (⟨String.ofList s, false, hn⟩, s.length, []) := by
  have hr : startsWith "r#" s = false :=
    startsWith_of_notMem (c := '#') (by decide) (notMem_of_isWord hw (by decide))
  have hn := splitName_of_isWord hw
  unfold ident
  simp only [startsLiteral_of_isWord hw, hr, Bool.false_eq_true, if_false]
  split
  all_goals
    rename_i h
    simp only [hr, Bool.false_eq_true, if_false] at h
    cases hn.symm.trans h
  case h_2 => simp

end Words

-- A word is one token.
theorem go_of_isWord {s : List Char} (hw : isWord s) (hn : isWord (String.ofList s).toList) :
    go [] [] (s.length + 1) 0 s = .ok [.ident ⟨String.ofList s, false, hn⟩ 0] := by
  have hl : leaf 0 s = some (.ident ⟨String.ofList s, false, hn⟩ 0, s.length, []) := by
    simp only [leaf, literal_of_isWord hw, punct_of_isWord hw, ident_of_isWord hw hn]
  cases s
  case nil => cases hw
  case cons c cs =>
    have hc : Solid c := .of_isWord hw (.head cs)
    unfold go
    simp only [hc.leadingSpace_eq, hc.docComment_eq, hc.opener, hc.closer, Option.filter_none, hl]
    rfl

end Scan

theorem scan_of_isWord {s : List Char} (hw : isWord s) (hn : isWord (String.ofList s).toList) :
    scan s = .ok [.ident ⟨String.ofList s, false, hn⟩ 0] := by
  unfold scan
  split
  case h_1 => exact absurd rfl (Scan.Solid.of_isWord hw (.head _)).mark
  case h_2 => exact Scan.go_of_isWord hw hn

namespace Parser

variable {i : Ident} {p : Nat}

theorem ident_run (ts : List Token) (stop : Nat) (l : Option Leftover) (shown : List Token) :
    ident ⟨.ident i p :: ts, stop, l, shown⟩ =
      (if i.isKeyword then fail ("expected identifier, found keyword `" ++ i.name ++ "`")
        else do advance 1; return i : Parser Ident) ⟨.ident i p :: ts, stop, l, shown⟩ :=
  rfl

theorem runAll_ident (hk : i.isKeyword = false) : runAll ident [.ident i p] = .ok i := by
  have hr : ident ⟨[.ident i p], 0, none, []⟩ = .ok (i, ⟨[], 0, none, [.ident i p]⟩) := by
    rw [ident_run, hk]
    rfl
  unfold runAll
  rw [StateT.run, hr]
  rfl

theorem runAll_ident_of_isKeyword (hk : i.isKeyword) : ∃ e, runAll ident [.ident i p] = .error e := by
  cases h : runAll ident [.ident i p]
  case error e => exact ⟨e, rfl⟩
  case ok j =>
    obtain ⟨_, hr, _⟩ := bind_eq_ok.mp h
    rw [StateT.run, ident_run, hk] at hr
    exact absurd hr fail_ne_ok

end Parser

-- A word is read as the identifier that it spells, if it is no keyword.
theorem readIdent_of_isWord {name : String} (hw : isWord name.toList) :
    (name ∉ Token.keywords → readIdent name = .ok ⟨name, false, hw⟩) ∧
    (name ∈ Token.keywords → ∃ e, readIdent name = .error e) := by
  have hn : String.ofList name.toList = name := String.ofList_toList
  have hs := scan_of_isWord hw (hn.symm ▸ hw)
  simp only [hn] at hs
  have hk : (⟨name, false, hw⟩ : Ident).isKeyword = decide (name ∈ Token.keywords) := by
    simp [Ident.isKeyword]
  constructor
  case left =>
    intro h
    simp only [readIdent, read, hs, Parser.runAll_ident (hk.trans (decide_eq_false h))]
  case right =>
    intro h
    obtain ⟨e, he⟩ := Parser.runAll_ident_of_isKeyword (p := 0) (hk.trans (decide_eq_true h))
    simp only [readIdent, read, hs, he]
    exact ⟨_, rfl⟩

end Source

theorem identifier_of_isWord {name : String} (field : String) (hw : isWord name.toList) :
    identifier name field =
      if name ∈ Source.Token.keywords then .error (.invalidIdentifier name field) else .ok name := by
  obtain ⟨ho, he⟩ := Source.readIdent_of_isWord hw
  by_cases hk : name ∈ Source.Token.keywords
  case pos =>
    obtain ⟨e, he⟩ := he hk
    rw [identifier, he, if_pos hk]
  case neg =>
    rw [identifier, ho hk, if_neg hk]
    rfl

theorem identifier_of_isDigit {name : String} (field : String) {c : Char} {cs : List Char}
    (hn : name.toList = c :: cs) (hc : c.isDigit) (hs : Naming.IsSolid name) :
    identifier name field = .error (.invalidIdentifier name field) := by
  unfold identifier
  split
  case h_2 => rfl
  case h_1 i hi =>
    have ht := Source.text_of_readIdent hs hi
    unfold Source.Ident.text at ht
    split at ht
    case isTrue =>
      -- The marker of a raw identifier starts with a letter.
      have hr := congrArg String.toList ht
      simp only [String.toList_append, hn] at hr
      cases (List.cons.inj hr).left
      cases hc
    case isFalse =>
      have hw := i.word
      rw [ht, hn] at hw
      simp only [isWord, Bool.and_eq_true] at hw
      exact absurd hc (by simp [Source.Scan.not_isDigit_of_isNameStart hw.left])

end EnvConfig
