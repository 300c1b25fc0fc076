import EnvConfig.Module.Rendering
import EnvConfig.Proofs.Printing

-- The code of a module in front of its loader is plain: no name in it has a slash, and no item has an empty
-- comment.

namespace EnvConfig

open Source Layout Layout.Document Layout.Code

namespace Layout.Document

variable {indent : Int} {consistent : Bool} {d d' separator : Document} {ds : List Document} {t : String}
variable {b : Break}

def IsPlain (d : Document) : Prop :=
  ∀ m ∈ d, m.IsPlain

namespace IsPlain

@[simp]
theorem nil : IsPlain [] :=
  fun _ h => nomatch h

@[simp]
theorem append : IsPlain (d ++ d') ↔ d.IsPlain ∧ d'.IsPlain :=
  List.forall_mem_append

@[simp]
theorem text : IsPlain (text t) ↔ '/' ∉ t.toList :=
  List.forall_mem_singleton

@[simp]
theorem breaking : IsPlain (breaking b) ↔ Mark.IsPlain (.break b) :=
  List.forall_mem_singleton

@[simp]
theorem space : IsPlain space := by
  simp [Document.space]

@[simp]
theorem line : IsPlain line := by
  simp [Document.line]

@[simp]
theorem lastLine : IsPlain lastLine := by
  simp [Document.lastLine]

@[simp]
theorem innerLine : IsPlain innerLine := by
  simp [Document.innerLine]

@[simp]
theorem never : IsPlain never := by
  simp [Document.never]

@[simp]
theorem zero : IsPlain zero := by
  simp [Document.zero]

@[simp]
theorem trailingComma {blanks : Nat} : IsPlain (trailingComma blanks) := by
  simp [Document.trailingComma]

theorem withoutInnerBreak (h : d.IsPlain) : IsPlain (withoutInnerBreak d) := by
  unfold Document.withoutInnerBreak
  split
  case h_2 => exact h
  case h_1 =>
    split
    case isFalse => exact h
    case isTrue => exact append.mpr ⟨fun m hm => h m ((List.dropLast_subset d) hm), never⟩

theorem enclose (h : d.IsPlain) : IsPlain (enclose indent consistent d) := by
  unfold Document.enclose
  split
  case h_1 => exact nil
  case h_2 =>
    refine List.forall_mem_append.mpr ⟨List.forall_mem_cons.mpr ⟨trivial, h.withoutInnerBreak⟩, ?_⟩
    exact List.forall_mem_singleton.mpr trivial

@[simp]
theorem together (h : d.IsPlain) : IsPlain (together indent d) :=
  h.enclose

@[simp]
theorem filled (h : d.IsPlain) : IsPlain (filled indent d) :=
  h.enclose

theorem flatMap {α : Type} {l : List α} {f : α → Document} (h : ∀ a ∈ l, IsPlain (f a)) :
    IsPlain (l.flatMap f) := by
  intro m hm
  obtain ⟨a, ha, hm⟩ := List.mem_flatMap.mp hm
  exact h a ha m hm

theorem separatedBy (hs : separator.IsPlain) (h : ∀ d ∈ ds, d.IsPlain) :
    IsPlain (separatedBy separator ds) := by
  induction ds using separatedBy.induct <;> simp_all [Document.separatedBy]

@[simp]
theorem lines (h : ∀ d ∈ ds, d.IsPlain) : IsPlain (Document.separatedBy Document.line ds) :=
  separatedBy line h

@[simp]
theorem commaSeparated (h : ∀ d ∈ ds, d.IsPlain) : IsPlain (commaSeparated ds) := by
  have hs : IsPlain (Document.separatedBy (Document.text "," ++ Document.space) ds) :=
    separatedBy (by simp) h
  cases ds <;> simp [Document.commaSeparated, hs]

end IsPlain
end Layout.Document

namespace Layout.Code

variable {d d' : Document} {ds : List Document} {t : String}

@[simp]
theorem isPlain_generic (ht : '/' ∉ t.toList) (h : ∀ d ∈ ds, d.IsPlain) : IsPlain (generic t ds) := by
  have hs := IsPlain.commaSeparated h
  simp [generic, ht, hs]

@[simp]
theorem isPlain_statement (h : d.IsPlain) : IsPlain (statement d) :=
  h.filled

@[simp]
theorem isPlain_arm (h : d.IsPlain) (h' : d'.IsPlain) : IsPlain (arm d d') := by
  simp [arm, h, h']

@[simp]
theorem isPlain_matchOn (h : d.IsPlain) (hs : ∀ d ∈ ds, d.IsPlain) : IsPlain (matchOn d ds) := by
  have hl := IsPlain.lines hs
  cases ds <;> simp [matchOn, h, hl]

@[simp]
theorem isPlain_block (hs : ∀ d ∈ ds, d.IsPlain) : IsPlain (block ds) := by
  have hl := IsPlain.lines hs
  cases ds <;> simp [block, hl]

end Layout.Code

namespace Module

variable {d d' : Document} {ds ps : List Document} {doc name : String} {docs attributes : List String}

-- A text that makes a comment of one line with something in it, but for spaces.
structure IsRemark (doc : String) : Prop where
  slash : '/' ∉ doc.toList
  line  : '\n' ∉ doc.toList
  solid : ∃ c ∈ doc.toList, c ≠ ' '

theorem mem_of_mem_trimSpaces {s : List Char} {c : Char} (h : c ∈ trimSpaces s) : c ∈ s := by
  simpa using (List.dropWhile_subset _) (List.mem_reverse.mp h)

theorem trimSpaces_ne_nil {s : List Char} {c : Char} (h : c ∈ s) (hc : c ≠ ' ') : trimSpaces s ≠ [] := by
  intro hn
  simp [trimSpaces] at hn
  exact hc (hn c h)

theorem docComment_eq (hn : '\n' ∉ doc.toList) :
    docComment doc = comment ("///" ++ String.ofList (trimSpaces doc.toList)) ++ line := by
  simp [docComment, hn]

theorem IsRemark.isPlain (h : IsRemark doc) : IsPlain (docComment doc) := by
  obtain ⟨c, hc, hne⟩ := h.solid
  rw [docComment_eq h.line]
  refine IsPlain.append.mpr ⟨List.forall_mem_singleton.mpr ⟨_, by simp, trimSpaces_ne_nil hc hne, ?_⟩, .line⟩
  exact fun hs => h.slash (mem_of_mem_trimSpaces hs)

theorem isPlain_documented (hd : ∀ doc ∈ docs, IsRemark doc) (ha : ∀ a ∈ attributes, '/' ∉ a.toList)
    (h : d.IsPlain) : IsPlain (documented docs attributes d) := by
  have hd : IsPlain (docComments docs) := .flatMap fun doc hm => (hd doc hm).isPlain
  have ha : IsPlain (attributes.flatMap fun a => Document.text a ++ line) :=
    .flatMap fun a hm => by simp [ha a hm]
  simp [documented, hd, ha, h]

theorem isPlain_lastComma {enclosed : Bool} : IsPlain (lastComma enclosed) := by
  cases enclosed <;> simp [lastComma]

theorem isPlain_gap {state : AttributeState} : IsPlain (gateToken.gap state) := by
  unfold gateToken.gap
  split <;> simp

mutual

-- The tokens of a gate are written as they are, with spaces between them.
theorem isPlain_gateToken {enclosed isLast : Bool} {state : AttributeState} :
    (t : Token) → '/' ∉ t.denseText.toList → IsPlain (gateToken enclosed state isLast t).1
  | .ident i _, h   => by simpa [gateToken, Token.denseText, isPlain_gap] using h
  | .literal t _, h => by simpa [gateToken, Token.denseText, isPlain_gap] using h
  | .punct c _ _, h => by
    simp only [gateToken]
    split
    case isTrue => exact isPlain_lastComma
    case isFalse =>
      have hf : IsPlain (if state = .word ∧ c = '=' then Document.text " " else []) := by split <;> simp
      have hb : IsPlain (if c = '=' then Document.text " " else if c = ',' then space else []) := by
        repeat' split
        all_goals simp
      simpa [Token.denseText, hf, hb] using h
  | .group d ts _ _, h => by
    have hts : '/' ∉ (Token.denseTexts ts).toList := by simp_all [Token.denseText]
    cases d <;> simp only [gateToken]
    case parenthesis => exact isPlain_gateGroup ts hts
    case invisible => exact isPlain_gateTokens ts hts
    all_goals simp [Delimiter.opening, Delimiter.closing, isPlain_gateTokens ts hts]

theorem isPlain_gateTokens {enclosed : Bool} {state : AttributeState} :
    (ts : List Token) → '/' ∉ (Token.denseTexts ts).toList → IsPlain (gateTokens enclosed state ts).1
  | [], _      => by simp [gateTokens]
  | t :: ts, h => by
    have ⟨ht, hts⟩ : '/' ∉ t.denseText.toList ∧ '/' ∉ (Token.denseTexts ts).toList := by
      simpa [Token.denseTexts] using h
    simp only [gateTokens]
    exact IsPlain.append.mpr ⟨isPlain_gateToken t ht, isPlain_gateTokens ts hts⟩

theorem isPlain_gateGroup (ts : List Token) (h : '/' ∉ (Token.denseTexts ts).toList) :
    IsPlain (gateGroup ts) := by
  have hts : IsPlain (gateTokens true .punct ts).1 := isPlain_gateTokens ts h
  simp only [gateGroup]
  split <;> simp [hts]

end

theorem isPlain_gateCode {gate : Option (List Token)} (h : ∀ ts ∈ gate, '/' ∉ (Token.denseTexts ts).toList) :
    IsPlain (gateCode gate) := by
  cases gate
  case none => exact .nil
  case some ts => simp [gateCode, isPlain_gateGroup ts (h ts rfl)]

theorem isPlain_inBody (h : d.IsPlain) (hs : ∀ d ∈ ds, d.IsPlain) : IsPlain (inBody d ds) := by
  have hl := IsPlain.lines hs
  cases ds <;> simp [inBody, body, h, hl]

theorem isPlain_function (hn : '/' ∉ name.toList) (hp : ∀ d ∈ ps, d.IsPlain) (h : d.IsPlain)
    (hs : ∀ d ∈ ds, d.IsPlain) : IsPlain (function name ps d ds) := by
  have hp : IsPlain (separatedBy (Document.text "," ++ space) ps) := IsPlain.separatedBy (by simp) hp
  refine isPlain_inBody ?_ hs
  cases ps <;> simp [hn, h, hp]

theorem isPlain_implementation {trait : Option String} (ht : ∀ t ∈ trait, '/' ∉ t.toList)
    (hn : '/' ∉ name.toList) (hs : ∀ d ∈ ds, d.IsPlain) : IsPlain (implementation trait name ds) := by
  refine isPlain_inBody ?_ hs
  cases trait <;> simp_all

variable {path : List Token} {names : List String} {c : KeyConstant} {vs : List Variant} {a : SentinelArms}
variable {t : ReportTypes} {type : String}

theorem isPlain_importsCode (hp : '/' ∉ (Token.denseTexts path).toList) (hn : ∀ n ∈ names, '/' ∉ n.toList) :
    IsPlain (importsCode path names) := by
  have hs : IsPlain (separatedBy (Document.text "," ++ space) (names.map Document.text)) :=
    .separatedBy (by simp) (by simpa using hn)
  unfold importsCode
  simp only
  split <;> simp_all

theorem isPlain_constantCode (hd : IsRemark c.doc) (hn : '/' ∉ c.name.toList)
    (hk : '/' ∉ (Text.quote c.key.toList).toList) : IsPlain (constantCode c) := by
  simp [constantCode, hd.isPlain, hn, hk]

theorem isPlain_sentinelsCode (ht : '/' ∉ type.toList) (hd : IsRemark doc)
    (hv : ∀ v ∈ vs, IsRemark v.doc ∧ '/' ∉ v.name.toList) : IsPlain (sentinelsCode type doc vs) := by
  refine isPlain_documented (by simpa using hd) (by simp) <| isPlain_inBody (by simp [ht]) ?_
  refine List.forall_mem_map.mpr fun v hm => ?_
  simp [(hv v hm).left.isPlain, (hv v hm).right]

theorem isPlain_variantArm {value : String} (hn : '/' ∉ name.toList) (hv : '/' ∉ value.toList) :
    IsPlain (variantArm name value) := by
  simp [variantArm, hn, hv]

theorem isPlain_sentinelMethodsCode (ht : '/' ∉ type.toList)
    (hk : ∀ k ∈ a.keys, '/' ∉ k.1.toList ∧ '/' ∉ k.2.toList) (hf : ∀ f ∈ a.flags, '/' ∉ f.1.toList) :
    IsPlain (sentinelMethodsCode type a) := by
  have hv {arms : List Document} (h : ∀ d ∈ arms, d.IsPlain) :
      ∀ d ∈ [statement (matchOn (Document.text "self") arms)], d.IsPlain := by
    simp [isPlain_matchOn _ h]
  have hb (b : Bool) : '/' ∉ (if b then "true" else "false").toList := by cases b <;> simp
  have hd : IsRemark " Name of the environment variable this error is about." := by constructor <;> simp
  have hd' : IsRemark " Whether the variable was not set, as opposed to malformed." := by constructor <;> simp
  simp only [sentinelMethodsCode]
  refine isPlain_implementation ?trait ht ?methods
  case trait => simp
  case methods =>
    simp only [List.mem_cons, List.not_mem_nil, or_false, forall_eq_or_imp, forall_eq]
    constructor
    case left =>
      refine isPlain_documented (by simp [hd]) (by simp) <|
        isPlain_function (by simp) (by simp) (by simp) <| hv ?_
      exact List.forall_mem_map.mpr fun k hm => isPlain_variantArm (hk k hm).left (hk k hm).right
    case right =>
      refine isPlain_documented (by simp [hd']) (by simp) <|
        isPlain_function (by simp) (by simp) (by simp) <| hv ?_
      exact List.forall_mem_map.mpr fun f hm => isPlain_variantArm (hf f hm) (hb f.2)

theorem isPlain_formatter : IsPlain formatter := by
  simp [formatter]

theorem isPlain_displayCode (ht : '/' ∉ type.toList) (hs : ∀ d ∈ ds, d.IsPlain) :
    IsPlain (displayCode type ds) := by
  refine isPlain_implementation (by simp) ht ?_
  simp only [List.mem_singleton, forall_eq]
  exact isPlain_function (by simp) (by simp [isPlain_formatter]) (by simp) hs

theorem isPlain_errorCode (ht : '/' ∉ type.toList) : IsPlain (errorCode type) :=
  isPlain_implementation (by simp) ht (by simp)

theorem isPlain_loadErrorCode (hs : '/' ∉ t.sentinels.toList) (he : '/' ∉ t.loadError.toList)
    (hd : IsRemark doc) : IsPlain (loadErrorCode t doc) := by
  have hm : IsRemark " Variables that are not set, in field order." := by constructor <;> simp
  have hi : IsRemark " Variables that are set but malformed, in field order." := by constructor <;> simp
  refine isPlain_documented (by simpa using hd) (by simp) <| isPlain_inBody (by simp [he]) ?_
  simp [hm.isPlain, hi.isPlain, vecOf, hs]

theorem isPlain_fixed {code : String} (h : '/' ∉ code.toList) : IsPlain (fixed code) := by
  simp [fixed, h]

theorem isPlain_braced (hn : '/' ∉ name.toList) (hs : ∀ d ∈ ds, d.IsPlain) : IsPlain (braced name ds) := by
  simp [braced, hn, isPlain_block hs]

theorem isPlain_fixedBraced (hn : '/' ∉ name.toList) (hs : ∀ code ∈ names, '/' ∉ code.toList) :
    IsPlain (fixedBraced name names) :=
  isPlain_braced hn <| List.forall_mem_map.mpr fun code hm => isPlain_fixed (hs code hm)

theorem isPlain_loadErrorMethodsCode (hs : '/' ∉ t.sentinels.toList) (he : '/' ∉ t.loadError.toList) :
    IsPlain (loadErrorMethodsCode t) := by
  have hd : IsRemark " Every reported problem, missing variables first." := by constructor <;> simp
  refine isPlain_implementation ?trait he ?methods
  case trait => simp
  case methods =>
    simp only [List.mem_cons, List.not_mem_nil, or_false, forall_eq_or_imp, forall_eq]
    constructor
    case left =>
      refine isPlain_documented (by simp [hd]) (by simp) <|
        isPlain_function (by simp) (by simp) (by simp [hs]) ?_
      simp [isPlain_fixed]
    case right =>
      refine isPlain_function (by simp) (by simp [isPlain_formatter, hs]) (by simp) ?_
      simp only [List.mem_cons, List.not_mem_nil, or_false, forall_eq_or_imp, forall_eq]
      refine ⟨isPlain_braced (by simp) ?_, isPlain_fixed (by simp)⟩
      simp [isPlain_fixed, isPlain_fixedBraced]

theorem isPlain_loadErrorDisplayCode (he : '/' ∉ t.loadError.toList) : IsPlain (loadErrorDisplayCode t) := by
  refine isPlain_displayCode he ?_
  simp only [List.mem_cons, List.not_mem_nil, or_false, forall_eq_or_imp, forall_eq]
  refine ⟨isPlain_fixedBraced (by simp) (by simp), isPlain_braced (by simp) ?_, isPlain_fixed (by simp)⟩
  simp [isPlain_fixed, isPlain_fixedBraced]

end Module

end EnvConfig
