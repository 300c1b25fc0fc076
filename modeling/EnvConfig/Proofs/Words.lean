import EnvConfig.Module.Code
import Mathlib.Data.List.Basic

-- The words of a loader's code, and which of them are names of something that is declared elsewhere.

namespace EnvConfig

open Source Layout Layout.Document Layout.Code

namespace Layout.Document

variable {indent : Int} {consistent : Bool} {d d' : Document} {ds : List Document} {b : Break} {t : String}

-- The texts of a document that are code.
def words (d : Document) : List String :=
  d.filterMap fun
    | .text t => some t
    | _       => none

@[simp]
theorem words_append : words (d ++ d') = words d ++ words d' :=
  List.filterMap_append

@[simp]
theorem words_nil : words [] = [] :=
  rfl

@[simp]
theorem words_text : words (text t) = [t] :=
  rfl

@[simp]
theorem words_breaking : words (breaking b) = [] :=
  rfl

@[simp]
theorem words_withoutInnerBreak : words (withoutInnerBreak d) = words d := by
  unfold withoutInnerBreak
  split
  case h_1 b hb =>
    split
    case isTrue =>
      have hd : d.dropLast ++ breaking b = d := List.dropLast_append_getLast? _ hb
      calc
        _ = words (d.dropLast ++ breaking b) := by simp only [words_append]; rfl
        _ = words d := by rw [hd]
    case isFalse => rfl
  case h_2 => rfl

@[simp]
theorem words_enclose : words (enclose indent consistent d) = words d := by
  unfold enclose
  split
  case h_1 => rfl
  case h_2 =>
    calc
      _ = words [.open indent consistent] ++ words (withoutInnerBreak d) ++ words [.close] := by
        rw [← words_append, ← words_append]
        rfl
      _ = words d := by rw [words_withoutInnerBreak]; exact List.append_nil _

@[simp]
theorem words_together : words (together indent d) = words d :=
  words_enclose

@[simp]
theorem words_filled : words (filled indent d) = words d :=
  words_enclose

@[simp]
theorem words_flatMap {α : Type} {l : List α} {f : α → Document} :
    words (l.flatMap f) = l.flatMap fun a => words (f a) := by
  induction l <;> simp_all

@[simp]
theorem words_line : words line = [] :=
  rfl

@[simp]
theorem words_wide : words [.wide] = [] :=
  rfl

@[simp]
theorem words_lastLine : words lastLine = [] :=
  rfl

@[simp]
theorem words_space : words space = [] :=
  rfl

@[simp]
theorem words_zero : words zero = [] :=
  rfl

@[simp]
theorem words_never : words never = [] :=
  rfl

@[simp]
theorem words_lines : words (separatedBy line ds) = ds.flatMap words := by
  induction ds using separatedBy.induct <;> simp_all [separatedBy]

-- The commas between items change nothing in how often any other word stands there.
theorem count_words_separatedBy {w : String} (h : w ∉ words d) :
    (words (separatedBy d ds)).count w = (ds.flatMap words).count w := by
  induction ds using separatedBy.induct
  case case1 => rfl
  case case2 => simp [separatedBy]
  case case3 hi => simp [separatedBy, List.count_append, List.count_eq_zero_of_not_mem h, hi]

theorem count_words_commaSeparated {w : String} (h : w ≠ ",") :
    (words (commaSeparated ds)).count w = (ds.flatMap words).count w := by
  cases ds
  case nil => rfl
  case cons =>
    have hw : w ∉ words (text "," ++ space) := by simpa using h
    simp [commaSeparated, trailingComma, count_words_separatedBy hw]

@[simp]
theorem words_commaSeparated_nil : words (commaSeparated []) = [] :=
  rfl

@[simp]
theorem words_commaSeparated_singleton : words (commaSeparated [d]) = words d := by
  simp [commaSeparated, separatedBy, trailingComma]

end Layout.Document

namespace Layout.Code

variable {d d' : Document} {ds : List Document} {t : String} {ms : List Method}

@[simp]
theorem words_generic_singleton : words (generic t [d]) = [t ++ "<"] ++ words d ++ [">"] := by
  simp [generic]

@[simp]
theorem words_call_singleton : words (call d [d']) = words d ++ ["("] ++ words d' ++ [")"] := by
  simp [call]

theorem count_words_tuple {w : String} (h : w ∉ ["(", ",", ")"]) :
    (words (tuple ds)).count w = (ds.flatMap words).count w := by
  simp only [List.mem_cons, List.not_mem_nil, or_false, not_or] at h
  obtain ⟨ho, hc, he⟩ := h
  unfold tuple
  split <;> simp [Ne.symm ho, Ne.symm hc, Ne.symm he, count_words_commaSeparated hc]

@[simp]
theorem words_emptyLiteral : words (emptyLiteral t) = [t, " \x7b", "\x7d"] := by
  simp only [emptyLiteral]
  split <;> simp

theorem count_words_literal {w : String} (h : w ∉ [" \x7b", ",", "\x7d"]) :
    (words (literal t ds)).count w = [t].count w + (ds.flatMap words).count w := by
  simp only [List.mem_cons, List.not_mem_nil, or_false, not_or] at h
  obtain ⟨ho, hc, he⟩ := h
  have hw : w ∉ words (text "," ++ space) := by simpa using hc
  cases ds
  case nil => simp [literal, List.count_cons, Ne.symm ho, Ne.symm he]
  case cons =>
    simp only [literal]
    split <;>
      simp [List.count_cons, Ne.symm ho, Ne.symm he, count_words_separatedBy hw, trailingComma, Nat.add_comm]

@[simp]
theorem words_field : words (field t d) = (t ++ ": ") :: words d := by
  simp [field]

@[simp]
theorem words_chain : words (chain t ms) =
    t :: ms.flatMap fun m => words m.name ++ ["("] ++ words m.arguments ++ [")"] := by
  simp [chain]

@[simp]
theorem words_closure : words (closure t d) = ["|", t ++ "|"] ++ words d := by
  simp [closure, closure.closureHead]

@[simp]
theorem words_block_cons :
    words (block (d :: ds)) = ["\x7b"] ++ (d :: ds).flatMap words ++ ["\x7d"] := by
  simp [block]

@[simp]
theorem words_statement : words (statement d) = words d :=
  words_filled

@[simp]
theorem words_letStatement :
    words (letStatement d d') = ["let "] ++ words d ++ [" = "] ++ words d' ++ [";"] := by
  simp [letStatement]

@[simp]
theorem words_arm : words (arm d d') = words d ++ [" => "] ++ words d' := by
  simp [arm]

@[simp]
theorem words_armBlock :
    words (armBlock d ds) = words d ++ [" => \x7b"] ++ ds.flatMap words ++ ["\x7d"] := by
  simp [armBlock]

@[simp]
theorem words_matchOn :
    words (matchOn d ds) = ["match "] ++ words d ++ [" ", "\x7b"] ++ ds.flatMap words ++ ["\x7d"] := by
  cases ds <;> simp [matchOn]

end Layout.Code

-- Most of the code around a name has other characters than small letters and underscores.
def isPlain (word : String) : Bool :=
  word.toList.all fun c => c == '_' || c.isLower

theorem ne_of_isPlain {word text : String} {c : Char} (hc : (c == '_' || c.isLower) = false) (h : isPlain word)
    (ht : c ∈ text.toList) : word ≠ text := by
  rintro rfl
  exact Bool.false_ne_true (hc.symm.trans (List.all_eq_true.mp h c ht))

namespace Helper

variable (h : Helper)

theorem isPlain_name : isPlain h.name := by
  cases h <;> decide

theorem name_ne_typeCode (p : Primitive) : h.name ≠ p.typeCode := by
  cases h <;> cases p <;> decide

end Helper

namespace Module

-- A helper is called by its name, in the value of a primitive that needs it and in no other one.
theorem name_mem_words_valueCode {h : Helper} {p : Parsing} :
    h.name ∈ words (valueCode p) ↔ p.parse.helper? = some h := by
  obtain ⟨parse, bits, narrow⟩ := p
  have ht := h.name_ne_typeCode
  have hn (q : Primitive) (code : String) : h.name ≠ "<" ++ q.typeCode ++ code :=
    ne_of_isPlain (c := '<') (by decide) h.isPlain_name (by simp)
  have hw (q : Primitive) : h.name ≠ q.typeCode ++ ">>::try_from(v).ok()" :=
    ne_of_isPlain (c := '>') (by decide) h.isPlain_name (by simp)
  have hc (q : Primitive) : h.name ≠ "v as " ++ q.typeCode :=
    ne_of_isPlain (c := ' ') (by decide) h.isPlain_name (by simp)
  cases h <;> cases parse <;> cases narrow <;> simp only [Helper.name] at ht hn hw hc ⊢ <;>
    simp [valueCode, valueCode.cast, Parse.helper?, readNumber, withoutSign, narrowed, notOverflown,
      method, methodBlock, ht, hn, hw, hc]

section

variable {sentinels : String} {r : VariableRead}

-- Reading a variable calls a helper only for the value of the variable's text.
theorem name_mem_words_readCode {h : Helper} (hc : 'E' ∈ r.constant.toList) :
    h.name ∈ words (readCode sentinels r) ↔ ∃ i ∈ r.interpretation, i.parsing.parse.helper? = some h := by
  have hp := h.isPlain_name
  have ht := h.name_ne_typeCode r.type
  have hb : h.name ≠ r.binding ++ ": " := ne_of_isPlain (c := ' ') (by decide) hp (by simp)
  have hs (v : String) : h.name ≠ sentinels ++ "::" ++ v := ne_of_isPlain (c := ':') (by decide) hp (by simp)
  have hc : h.name ≠ r.constant := ne_of_isPlain (by decide) hp hc
  have hv (p : Parsing) := name_mem_words_valueCode (h := h) (p := p)
  cases h <;> cases hi : r.interpretation <;> simp only [Helper.name] at ht hb hs hc hv ⊢ <;>
    simp [readCode, presentArm, braced, pushCode, method, optionOf, fixed, hi, ht, hb, hs, hc, hv]

-- A list of invalid values is needed only where the value can be invalid.
theorem invalid_mem_words_readCode (hc : 'E' ∈ r.constant.toList) :
    "invalid" ∈ words (readCode sentinels r) ↔ r.interpretation.isSome := by
  have hp : isPlain "invalid" := by decide
  have ht : "invalid" ≠ r.type.typeCode := by cases r.type <;> decide
  have hb : "invalid" ≠ r.binding ++ ": " := ne_of_isPlain (c := ' ') (by decide) hp (by simp)
  have hs (v : String) : "invalid" ≠ sentinels ++ "::" ++ v := ne_of_isPlain (c := ':') (by decide) hp (by simp)
  have hc : "invalid" ≠ r.constant := ne_of_isPlain (by decide) hp hc
  cases hi : r.interpretation <;>
    simp [readCode, presentArm, braced, pushCode, method, optionOf, fixed, hi, ht, hb, hs, hc]

end

end Module
end EnvConfig
