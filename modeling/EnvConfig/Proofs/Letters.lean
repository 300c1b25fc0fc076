import EnvConfig.Module.Code
import Mathlib.Data.List.Basic

-- The code of a document without its spaces. What stands in a group is the same as without the group, if
-- nothing is written at the place of a break at its end.

namespace EnvConfig.Layout

def solid (s : String) : List Char :=
  s.toList.filter (· != ' ')

@[simp]
theorem solid_append (s t : String) : solid (s ++ t) = solid s ++ solid t := by
  simp [solid]

@[simp]
theorem solid_empty : solid "" = [] :=
  rfl

@[simp]
theorem solid_space : solid " " = [] := by
  decide

@[simp]
theorem solid_comma : solid ", " = [','] := by
  decide

@[simp]
theorem solid_colon : solid ": " = [':'] := by
  decide

@[simp]
theorem solid_opening : solid "(" = ['('] := by
  decide

@[simp]
theorem solid_closing : solid ")" = [')'] := by
  decide

@[simp]
theorem solid_openingBrace : solid "\x7b" = ['\x7b'] := by
  decide

@[simp]
theorem solid_closingBrace : solid "\x7d" = ['\x7d'] := by
  decide

@[simp]
theorem solid_let : solid "let " = ['l', 'e', 't'] := by
  decide

@[simp]
theorem solid_equals : solid " = " = ['='] := by
  decide

@[simp]
theorem solid_semicolon : solid ";" = [';'] := by
  decide

@[simp]
theorem solid_semicolon_space : solid "; " = [';'] := by
  decide

theorem solid_intercalate {s : String} {items : List String} :
    solid (s.intercalate items) = (solid s).intercalate (items.map solid) := by
  rw [solid, String.toList_intercalate]
  induction items
  case nil => rfl
  case cons a items hi =>
    cases items
    case nil => simp [solid]
    case cons b items => simp_all [solid, List.intercalate_cons_cons]

def Mark.letters : Mark → List Char
  | .text t  => solid t
  | .break b => solid b.instead
  | _        => []

namespace Document

variable {indent : Int} {consistent : Bool} {d d' : Document} {ds : List Document} {b : Break} {t : String}

def letters (d : Document) : List Char :=
  d.flatMap Mark.letters

theorem solid_flat : solid d.flat = letters d := by
  induction d
  case nil => rfl
  case cons m ms hi =>
    have hl : letters (m :: ms) = m.letters ++ letters ms := List.flatMap_cons
    have hf : flat (m :: ms) = flat [m] ++ flat ms := by simp [flat, String.join_cons]
    rw [hl, hf, solid_append, hi]
    cases m
    case «break» b =>
      have hs : solid (if b.blanks = 0 then "" else " ") = [] := by split <;> rfl
      simp [flat, Mark.letters, hs]
    all_goals simp [flat, Mark.letters]

theorem toList_dense : d.dense.toList = letters d := by
  rw [dense, String.toList_ofList]
  exact solid_flat

@[simp]
theorem letters_append : letters (d ++ d') = letters d ++ letters d' :=
  List.flatMap_append

@[simp]
theorem letters_nil : letters [] = [] :=
  rfl

@[simp]
theorem letters_text : letters (text t) = solid t :=
  List.append_nil _

@[simp]
theorem letters_breaking : letters (breaking b) = solid b.instead :=
  List.append_nil _

-- A document at whose end nothing is written by a break.
class IsQuiet (d : Document) : Prop where
  instead : ∀ b, d.getLast? = some (.break b) → b.instead = ""

-- A quiet document that makes quiet what it stands behind.
class Ends (d : Document) : Prop where
  isQuiet : IsQuiet d
  ne_nil  : d ≠ []

section

variable {offset : Int} {blanks n : Nat} {before after : String} {inner isNever ifRoom : Bool}

instance [h : Ends d] : IsQuiet d :=
  h.isQuiet

instance : Ends (text t) where
  isQuiet := ⟨fun _ h => nomatch h⟩
  ne_nil  := List.cons_ne_nil _ _

instance : Ends [.wide] where
  isQuiet := ⟨fun _ h => nomatch h⟩
  ne_nil  := List.cons_ne_nil _ _

instance : Ends (breaking ⟨offset, blanks, before, after, "", inner, isNever, ifRoom⟩) where
  isQuiet := ⟨fun _ h => by cases h; rfl⟩
  ne_nil  := List.cons_ne_nil _ _

instance : Ends zero :=
  inferInstanceAs (Ends (breaking {}))

instance : Ends never :=
  inferInstanceAs (Ends (breaking { never := true }))

instance : Ends lastLine :=
  inferInstanceAs (Ends (breaking { blanks := infinite, offset := -indentation }))

instance : Ends (trailingComma n) :=
  inferInstanceAs (Ends (breaking { blanks := n, before := ",", offset := -indentation }))

instance [h : Ends d'] : Ends (d ++ d') where
  isQuiet := ⟨fun b hb => h.isQuiet.instead b <| by rwa [List.getLast?_append_of_ne_nil _ h.ne_nil] at hb⟩
  ne_nil  := List.append_ne_nil_of_right_ne_nil _ h.ne_nil

instance [IsQuiet d] [h : IsQuiet d'] : IsQuiet (d ++ d') := by
  cases d'
  case nil => rwa [List.append_nil]
  case cons m ms =>
    have : Ends (m :: ms) := ⟨h, List.cons_ne_nil _ _⟩
    infer_instance

instance : IsQuiet (enclose indent consistent d) where
  instead b hb := by
    unfold enclose at hb
    split at hb
    case h_1 => nomatch hb
    case h_2 =>
      rw [List.getLast?_concat] at hb
      nomatch hb

instance : IsQuiet (together indent d) :=
  inferInstanceAs (IsQuiet (enclose ..))

instance : IsQuiet (filled indent d) :=
  inferInstanceAs (IsQuiet (enclose ..))

theorem IsQuiet.flatMap {α : Type} {l : List α} {f : α → Document} [h : ∀ a, Ends (f a)] :
    IsQuiet (l.flatMap f) := by
  induction l
  case nil => exact ⟨fun _ h => nomatch h⟩
  case cons a l hi =>
    rw [List.flatMap_cons]
    infer_instance

theorem letters_withoutInnerBreak [h : IsQuiet d] : letters (withoutInnerBreak d) = letters d := by
  unfold withoutInnerBreak
  split
  case h_1 b hb =>
    have hd : d.dropLast ++ breaking b = d := List.dropLast_append_getLast? _ hb
    have hl : letters (breaking b) = [] := by rw [letters_breaking, h.instead b hb, solid_empty]
    split
    case isTrue =>
      calc
        _ = letters (d.dropLast ++ breaking b) := by rw [letters_append, letters_append, hl]; rfl
        _ = letters d := by rw [hd]
    case isFalse => rfl
  case h_2 => rfl

@[simp]
theorem letters_enclose [h : IsQuiet d] : letters (enclose indent consistent d) = letters d := by
  unfold enclose
  split
  case h_1 b =>
    calc
      _ = solid b.instead := by rw [h.instead b rfl]; rfl
      _ = letters (breaking b) := letters_breaking.symm
  case h_2 =>
    calc
      _ = letters [.open indent consistent] ++ letters (withoutInnerBreak d) ++ letters [.close] := by
        rw [← letters_append, ← letters_append]
        rfl
      _ = letters d := by rw [letters_withoutInnerBreak]; exact List.append_nil _

-- What is written by the last break of a group counts as well, if the break is not all there is.
theorem letters_enclose_breaking (hd : d ≠ []) (hb : b.inner = false) :
    letters (enclose indent consistent (d ++ breaking b)) = letters d ++ solid b.instead := by
  have hw : withoutInnerBreak (d ++ breaking b) = d ++ breaking b := by
    simp [withoutInnerBreak, breaking, hb]
  have he : enclose indent consistent (d ++ breaking b) =
      [.open indent consistent] ++ (d ++ breaking b) ++ [.close] := by
    unfold enclose
    split
    case h_1 h => simp [breaking, List.append_eq_singleton_iff, hd] at h
    case h_2 => rw [hw]; rfl
  rw [he, letters_append, letters_append, letters_append, letters_breaking]
  exact List.append_nil _

@[simp]
theorem letters_together [IsQuiet d] : letters (together indent d) = letters d :=
  letters_enclose

@[simp]
theorem letters_filled [IsQuiet d] : letters (filled indent d) = letters d :=
  letters_enclose

end

@[simp]
theorem letters_wide : letters [.wide] = [] :=
  rfl

@[simp]
theorem letters_zero : letters zero = [] :=
  letters_breaking

@[simp]
theorem letters_never : letters never = [] :=
  letters_breaking

@[simp]
theorem letters_line : letters line = [] :=
  letters_breaking

@[simp]
theorem letters_lastLine : letters lastLine = [] :=
  letters_breaking

@[simp]
theorem letters_space : letters space = [] :=
  letters_breaking

@[simp]
theorem letters_trailingComma {n : Nat} : letters (trailingComma n) = [] :=
  letters_breaking

theorem letters_flatMap {α : Type} {l : List α} {f : α → Document} :
    letters (l.flatMap f) = l.flatMap fun a => letters (f a) :=
  List.flatMap_assoc

theorem letters_separatedBy : letters (separatedBy d ds) = (letters d).intercalate (ds.map letters) := by
  induction ds using separatedBy.induct
  case case1 => rfl
  case case2 => simp [separatedBy]
  case case3 d' ds hn hi =>
    obtain ⟨d'', ds, rfl⟩ := List.exists_cons_of_ne_nil hn
    simp [separatedBy, hi, List.intercalate_cons_cons]

@[simp]
theorem letters_lines : letters (separatedBy line ds) = ds.flatMap letters := by
  induction ds using separatedBy.induct
  case case1 => rfl
  case case2 => simp [separatedBy]
  case case3 hi => simp [separatedBy, hi]

@[simp]
theorem letters_commaSeparated : letters (commaSeparated ds) = [','].intercalate (ds.map letters) := by
  cases ds
  case nil => rfl
  case cons => simp [commaSeparated, letters_separatedBy, solid]

theorem letters_comment : letters (comment t) = [] :=
  rfl

end Document

namespace Code

open Document

variable {d d' : Document} {ds : List Document} {t : String} {ms : List Method}

@[simp]
theorem letters_generic :
    letters (generic t ds) = solid t ++ '<' :: [','].intercalate (ds.map letters) ++ ['>'] := by
  simp [generic, solid]

instance : Ends (generic t ds) := by
  unfold generic
  infer_instance

@[simp]
theorem letters_call : letters (call d ds) = letters d ++ '(' :: [','].intercalate (ds.map letters) ++ [')'] := by
  simp [call, solid]

@[simp]
theorem letters_callBlock : letters (callBlock t d) = solid t ++ '(' :: letters d ++ [')'] := by
  simp [callBlock, solid]

instance : Ends (callBlock t d) := by
  unfold callBlock
  infer_instance

-- One item has a comma behind it.
theorem letters_tuple : letters (tuple ds) =
    '(' :: (if ds.length = 1 then ds.flatMap letters ++ [','] else [','].intercalate (ds.map letters)) ++ [')'] := by
  unfold tuple
  split
  case h_1 => simp [solid]
  case h_2 hn =>
    have hl : ds.length ≠ 1 := fun h => by
      obtain ⟨d, rfl⟩ := List.length_eq_one_iff.mp h
      exact hn d rfl
    simp [hl, solid]

instance : Ends (tuple ds) := by
  unfold tuple
  split <;> infer_instance

def Method.letters (m : Method) : List Char :=
  Document.letters m.name ++ '(' :: Document.letters m.arguments ++ [')']

@[simp]
theorem letters_chain : letters (chain t ms) = solid t ++ ms.flatMap Method.letters := by
  let call (m : Method) : Document := zero ++ m.name ++ together 0 (text "(" ++ m.arguments ++ text ")")
  have hc (m : Method) : Ends (call m) :=
    have : Ends (together 0 (text "(" ++ m.arguments ++ text ")")) :=
      ⟨inferInstance, by simp [together, enclose, text]⟩
    inferInstance
  have hl (m : Method) : letters (call m) = m.letters := by simp [call, Method.letters, solid]
  have : IsQuiet (ms.flatMap call) := .flatMap
  calc
    _ = letters (together (-indentation) (text t) ++ ms.flatMap call) := letters_together
    _ = _ := by simp [letters_flatMap, hl]

@[simp]
theorem letters_closure : letters (closure t d) = '|' :: solid t ++ '|' :: letters d := by
  simp [closure, closure.closureHead, solid]

@[simp]
theorem letters_block : letters (block ds) = '\x7b' :: ds.flatMap letters ++ ['\x7d'] := by
  cases ds
  case nil => rfl
  case cons => simp [block, solid]

@[simp]
theorem letters_statement [IsQuiet d] : letters (statement d) = letters d :=
  letters_filled

@[simp]
theorem letters_letStatement :
    letters (letStatement d d') = "let".toList ++ letters d ++ '=' :: letters d' ++ [';'] := by
  simp [letStatement, solid]

-- If the line goes on behind the value, there is a comma.
@[simp]
theorem letters_arm : letters (arm d d') = letters d ++ "=>".toList ++ letters d' ++ [','] := by
  let value := breaking { before := "\x7b" } ++ d'
  have hl : letters (together indentation (value ++
      breaking { offset := -indentation, after := "\x7d", instead := "," })) = letters d' ++ [','] :=
    (letters_enclose_breaking (by simp [value, breaking]) rfl).trans (by simp [value, solid])
  calc
    _ = letters (d ++ text " => " ++ never ++ _) := letters_filled
    _ = _ := by rw [letters_append, hl]; simp [solid]

@[simp]
theorem letters_armBlock :
    letters (armBlock d ds) = letters d ++ "=>\x7b".toList ++ ds.flatMap letters ++ ['\x7d'] := by
  simp [armBlock, solid]

@[simp]
theorem letters_matchOn :
    letters (matchOn d ds) = "match".toList ++ letters d ++ '\x7b' :: ds.flatMap letters ++ ['\x7d'] := by
  cases ds <;> simp [matchOn, solid]

@[simp]
theorem letters_field [IsQuiet d] : letters (field t d) = solid t ++ ':' :: letters d := by
  simp [field, solid]

instance : Ends (literal t ds) := by
  unfold literal emptyLiteral
  split
  case h_1 => dsimp only; split <;> infer_instance
  case h_2 => infer_instance

theorem letters_literal :
    letters (literal t ds) = solid t ++ '\x7b' :: [','].intercalate (ds.map letters) ++ ['\x7d'] := by
  unfold literal emptyLiteral
  split
  case h_1 =>
    dsimp only
    split <;> simp [solid]
  case h_2 =>
    dsimp only
    split <;> simp [letters_separatedBy, solid]

end Code
end EnvConfig.Layout

namespace EnvConfig.Module

open Layout Layout.Document Layout.Code

variable {head type : String} {result : Document} {ps ds : List Document}

@[simp]
theorem letters_fixed : letters (fixed head) = solid head :=
  letters_text

@[simp]
theorem letters_braced : letters (braced head ds) = solid head ++ '\x7b' :: ds.flatMap letters ++ ['\x7d'] := by
  simp [braced]

@[simp]
theorem letters_fixedBraced {body : List String} :
    letters (fixedBraced head body) = solid head ++ '\x7b' :: body.flatMap solid ++ ['\x7d'] := by
  simp [fixedBraced, List.flatMap_map]

theorem letters_inBody {d : Document} :
    letters (inBody d ds) = letters d ++ '\x7b' :: ds.flatMap letters ++ ['\x7d'] := by
  have hi : letters innerLine = [] := letters_breaking
  cases ds
  case nil =>
    have : Ends innerLine := inferInstanceAs (Ends (breaking { blanks := infinite, inner := true }))
    simp [inBody, hi]
  case cons => simp [inBody, body, hi]

theorem letters_function [IsQuiet result] : letters (function head ps result ds) =
    solid head ++ '(' :: [','].intercalate (ps.map letters) ++ ")->".toList ++ letters result ++
      '\x7b' :: ds.flatMap letters ++ ['\x7d'] := by
  have ha : solid " -> " = "->".toList := by decide
  cases ps
  case nil => simp [function, letters_inBody, ha]
  case cons => simp [function, letters_inBody, letters_separatedBy, solid]

theorem letters_docComments {docs : List String} : letters (docComments docs) = [] := by
  have hd (doc : String) : letters (docComment doc) = [] := by
    unfold docComment
    dsimp only
    split
    case isTrue  => simp [letters_comment]
    case isFalse => split <;> simp [letters_comment]
  simp [docComments, letters_flatMap, hd]

end EnvConfig.Module
