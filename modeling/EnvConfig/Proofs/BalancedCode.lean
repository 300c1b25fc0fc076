import EnvConfig.Module.Code
import EnvConfig.Proofs.Paragraphs

-- The code of every item closes the groups that it opens, whatever names and values stand in it.

namespace EnvConfig

open Source Layout Layout.Document Layout.Code

namespace Layout.Code

variable {d d' : Document} {ds : List Document} {name : String}

instance [AllBalanced ds] : IsBalanced (generic name ds) := by
  unfold generic
  infer_instance

instance [d.IsBalanced] [AllBalanced ds] : IsBalanced (call d ds) := by
  unfold call
  infer_instance

instance [d.IsBalanced] : IsBalanced (callBlock name d) := by
  unfold callBlock
  infer_instance

instance [h : AllBalanced ds] : IsBalanced (tuple ds) := by
  unfold tuple
  split
  case h_2   => infer_instance
  case h_1 d =>
    have := h.isBalanced d (.head _)
    infer_instance

structure Method.IsBalanced (m : Method) : Prop where
  name      : m.name.IsBalanced
  arguments : m.arguments.IsBalanced

theorem isBalanced_method [AllBalanced ds] : (method name ds).IsBalanced where
  name      := .text
  arguments := AllBalanced.commaSeparated

theorem isBalanced_methodBlock [h : d.IsBalanced] : (methodBlock name d).IsBalanced where
  name      := .text
  arguments := h

theorem isBalanced_chain {ms : List Method} (h : ∀ m ∈ ms, m.IsBalanced) :
    IsBalanced (chain name ms) := by
  have : IsBalanced (ms.flatMap fun m =>
      zero ++ m.name ++ together 0 (text "(" ++ m.arguments ++ text ")")) :=
    .of_flatMap fun m hm =>
      have := (h m hm).name
      have := (h m hm).arguments
      inferInstance
  unfold chain
  infer_instance

instance [d.IsBalanced] : IsBalanced (closure name d) := by
  unfold closure closure.closureHead
  infer_instance

instance [AllBalanced ds] : IsBalanced (block ds) := by
  unfold block
  split <;> infer_instance

instance [d.IsBalanced] : IsBalanced (statement d) := by
  unfold statement
  infer_instance

instance [d.IsBalanced] [d'.IsBalanced] : IsBalanced (letStatement d d') := by
  unfold letStatement
  infer_instance

instance [d.IsBalanced] [d'.IsBalanced] : IsBalanced (arm d d') := by
  unfold arm
  infer_instance

instance [d.IsBalanced] [AllBalanced ds] : IsBalanced (armBlock d ds) := by
  unfold armBlock
  infer_instance

instance [d.IsBalanced] [AllBalanced ds] : IsBalanced (matchOn d ds) := by
  unfold matchOn
  split <;> infer_instance

instance [d.IsBalanced] : IsBalanced (field name d) := by
  unfold field
  infer_instance

instance : IsBalanced (emptyLiteral name) := by
  unfold emptyLiteral
  infer_instance

instance [AllBalanced ds] : IsBalanced (literal name ds) := by
  unfold literal
  split <;> infer_instance

end Layout.Code

namespace Module

variable {d : Document} {ds : List Document} {name doc : String} {docs attributes : List String}

instance : IsBalanced (fixed name) :=
  .text

instance [AllBalanced ds] : IsBalanced (braced name ds) := by
  unfold braced
  infer_instance

instance {body : List String} : IsBalanced (fixedBraced name body) := by
  unfold fixedBraced
  infer_instance

theorem isBalanced_readNumber {type : Primitive} : ∀ m ∈ readNumber type, m.IsBalanced :=
  List.forall_mem_cons.mpr ⟨⟨inferInstance, .nil⟩, List.forall_mem_singleton.mpr isBalanced_method⟩

theorem isBalanced_notOverflown : notOverflown.IsBalanced :=
  isBalanced_methodBlock

theorem isBalanced_narrowed {wide type : Primitive} : (narrowed wide type).IsBalanced :=
  isBalanced_methodBlock

theorem isBalanced_chain_readNumber {type : Primitive} {ms : List Method} (h : ∀ m ∈ ms, m.IsBalanced) :
    IsBalanced (chain "raw" (readNumber type ++ ms)) :=
  isBalanced_chain <| List.forall_mem_append.mpr ⟨isBalanced_readNumber, h⟩

instance {p : Parsing} : IsBalanced (valueCode p) := by
  have hn : ∀ m ∈ (p.narrow.map (narrowed p.parse.wide)).toList, m.IsBalanced := by
    cases p.narrow <;> simp [isBalanced_narrowed]
  have hs : ∀ m ∈ withoutSign :: (p.narrow.map (narrowed p.parse.wide)).toList, m.IsBalanced :=
    List.forall_mem_cons.mpr ⟨isBalanced_methodBlock, hn⟩
  have hc : ∀ m ∈ (p.narrow.map valueCode.cast).toList ++ [notOverflown], m.IsBalanced := by
    refine List.forall_mem_append.mpr ⟨?_, List.forall_mem_singleton.mpr isBalanced_notOverflown⟩
    cases p.narrow
    case none => simp
    case some => exact List.forall_mem_singleton.mpr isBalanced_methodBlock
  simp only [valueCode, List.append_assoc]
  split
  case h_4 => exact isBalanced_chain_readNumber hs
  case h_5 => exact isBalanced_chain_readNumber hn
  case h_6 => exact isBalanced_chain_readNumber hn
  case h_7 => exact isBalanced_chain_readNumber hc
  all_goals infer_instance

instance : IsBalanced boolHelper := by
  unfold boolHelper
  infer_instance

instance : IsBalanced durationHelper := by
  unfold durationHelper componentNumber componentUnit componentSum
  infer_instance

instance : IsBalanced (docComment doc) := by
  unfold docComment
  infer_instance

instance : IsBalanced (docComments docs) := by
  unfold docComments
  infer_instance

instance {enclosed : Bool} : IsBalanced (lastComma enclosed) := by
  unfold lastComma
  infer_instance

instance {state : AttributeState} : IsBalanced (gateToken.gap state) := by
  unfold gateToken.gap
  infer_instance

mutual

theorem isBalanced_gateToken (enclosed isLast : Bool) (state : AttributeState) :
    (t : Token) → IsBalanced (gateToken enclosed state isLast t).1
  | .ident _ _   => by
    simp only [gateToken]
    infer_instance
  | .literal _ _ => by
    simp only [gateToken]
    infer_instance
  | .punct c _ _ => by
    simp only [gateToken]
    split <;> infer_instance
  | .group d ts _ _ => by
    have := isBalanced_gateTokens false .punct ts
    cases d <;> simp only [gateToken]
    case parenthesis => exact isBalanced_gateGroup ts
    case invisible   => exact isBalanced_gateTokens enclosed state ts
    all_goals infer_instance

theorem isBalanced_gateTokens (enclosed : Bool) (state : AttributeState) :
    (ts : List Token) → IsBalanced (gateTokens enclosed state ts).1
  | []      => by
    simp only [gateTokens]
    infer_instance
  | t :: ts => by
    have := isBalanced_gateToken enclosed ts.isEmpty state t
    have := isBalanced_gateTokens enclosed (gateToken enclosed state ts.isEmpty t).2 ts
    simp only [gateTokens]
    infer_instance

theorem isBalanced_gateGroup (ts : List Token) : IsBalanced (gateGroup ts) := by
  have := isBalanced_gateTokens true .punct ts
  simp only [gateGroup]
  infer_instance

end

instance [AllBalanced ds] : IsBalanced (body ds) := by
  unfold body
  split <;> infer_instance

instance [d.IsBalanced] [AllBalanced ds] : IsBalanced (inBody d ds) := by
  unfold inBody
  split <;> infer_instance

instance {ps : List Document} [AllBalanced ps] [d.IsBalanced] [AllBalanced ds] :
    IsBalanced (function name ps d ds) := by
  unfold function
  dsimp only
  split <;> infer_instance

instance {trait : Option String} [AllBalanced ds] : IsBalanced (implementation trait name ds) := by
  unfold implementation
  dsimp only
  split <;> infer_instance

instance [d.IsBalanced] : IsBalanced (documented docs attributes d) := by
  unfold documented
  infer_instance

variable {t : ReportTypes} {l : Loader} {type value : String}

instance : IsBalanced (vecOf type) := by
  unfold vecOf
  infer_instance

instance {type : Primitive} : IsBalanced (optionOf type) := by
  unfold optionOf
  infer_instance

instance {path : List Token} {names : List String} : IsBalanced (importsCode path names) := by
  unfold importsCode
  dsimp only
  split <;> infer_instance

instance {c : KeyConstant} : IsBalanced (constantCode c) := by
  unfold constantCode
  infer_instance

instance {variants : List Variant} : IsBalanced (sentinelsCode type doc variants) := by
  unfold sentinelsCode
  infer_instance

instance : IsBalanced (variantArm name value) := by
  unfold variantArm
  infer_instance

instance {arms : SentinelArms} : IsBalanced (sentinelMethodsCode type arms) := by
  unfold sentinelMethodsCode
  infer_instance

instance : IsBalanced formatter := by
  unfold formatter
  infer_instance

instance [AllBalanced ds] : IsBalanced (displayCode type ds) := by
  unfold displayCode
  infer_instance

instance : IsBalanced (errorCode type) := by
  unfold errorCode
  infer_instance

instance : IsBalanced (loadErrorCode t doc) := by
  unfold loadErrorCode
  infer_instance

instance : IsBalanced (loadErrorMethodsCode t) := by
  unfold loadErrorMethodsCode
  infer_instance

instance : IsBalanced (loadErrorDisplayCode t) := by
  unfold loadErrorDisplayCode
  infer_instance

instance {list variant : String} : IsBalanced (pushCode list type variant) := by
  have : IsBalanced (chain list [method "push" [Document.text (type ++ "::" ++ variant)]]) :=
    isBalanced_chain <| List.forall_mem_singleton.mpr isBalanced_method
  unfold pushCode
  infer_instance

instance {r : VariableRead} : IsBalanced (presentArm type r) := by
  unfold presentArm
  dsimp only
  split <;> infer_instance

instance {r : VariableRead} : IsBalanced (readCode type r) := by
  unfold readCode
  infer_instance

theorem allBalanced_literalFields : (fs : Fields String) → AllBalanced (literalFields fs)
  | .nil                  => .nil
  | .leaf _ _ rest        =>
    have := allBalanced_literalFields rest
    .cons
  | .record _ _ inner rest =>
    have := allBalanced_literalFields inner
    have := allBalanced_literalFields rest
    .cons

instance {r : Record String} : IsBalanced (literalCode r) := by
  have := allBalanced_literalFields r.fields
  unfold literalCode
  infer_instance

instance {bindings : List String} : IsBalanced (presentPattern bindings) := by
  unfold presentPattern
  infer_instance

instance {bindings : List String} : IsBalanced (presentOptions bindings) := by
  unfold presentOptions
  infer_instance

instance : IsBalanced (successCode l) := by
  unfold successCode
  infer_instance

instance {isMutable : Bool} : IsBalanced (listCode name isMutable type) := by
  unfold listCode
  infer_instance

instance : AllBalanced (loaderStatements t l) := by
  unfold loaderStatements
  split <;> infer_instance

instance : IsBalanced (loaderCode t l) := by
  unfold loaderCode
  infer_instance

instance {h : Helper} : IsBalanced (helperCode h) := by
  cases h <;> unfold helperCode <;> infer_instance

instance isBalanced_itemCode {item : ModuleItem} : IsBalanced (itemCode t item) := by
  cases item <;> unfold itemCode <;> infer_instance

end Module
end EnvConfig
