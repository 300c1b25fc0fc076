import EnvConfig.Proofs.BalancedCode
import EnvConfig.Proofs.Building
import EnvConfig.Proofs.Evaluation

-- A gate is all that it adds to a module: the same items stand behind one attribute each, and their text is
-- the same.

namespace EnvConfig

open Source Layout Layout.Document

namespace Module

variable {t : ReportTypes} {m : Module} {d : Document} {ds : List Document} {project : String} {f : Flattened}
  {path : Option (List Token)}

def itemText (t : ReportTypes) (item : ModuleItem) : String :=
  (itemCode t item).alone

-- An attribute, without the end of its line.
def attributeCode (gate : List Token) : Document :=
  Document.text "#[cfg" ++ gateGroup gate ++ Document.text "]"

def gateText (gate : List Token) : String :=
  (attributeCode gate).alone

theorem isBalanced_attributeCode {gate : List Token} : IsBalanced (attributeCode gate) := by
  have := isBalanced_gateGroup gate
  unfold attributeCode
  infer_instance

theorem docComment_ne_nil {doc : String} : docComment doc ≠ [] := by
  unfold docComment
  dsimp only
  split
  case isTrue  => simp [comment]
  case isFalse => split <;> simp [comment]

theorem inBody_ne_nil : inBody d ds ≠ [] := by
  cases ds <;> simp [inBody, Document.text]

theorem itemCode_ne_nil {item : ModuleItem} : itemCode t item ≠ [] := by
  cases item
  case imports  => simp [itemCode, importsCode, Document.text]
  case constant => simp [itemCode, constantCode, docComment_ne_nil]
  case helper h =>
    cases h <;> simp [itemCode, helperCode, boolHelper, durationHelper, braced, Document.text]
  all_goals
    simp [itemCode, sentinelsCode, sentinelMethodsCode, displayCode, errorCode, loadErrorCode,
      loadErrorMethodsCode, loadErrorDisplayCode, loaderCode, documented, implementation, function,
      inBody_ne_nil]

-- The pieces of an item's code that have lines for themselves.
def itemParagraphs (t : ReportTypes) (i : GatedItem) : List (Document × Nat) :=
  i.gate.toList.map (attributeCode ·, 1) ++ [(itemCode t i.item, infinite)]

theorem paragraphs_itemParagraphs {i : GatedItem} :
    paragraphs (itemParagraphs t i) = gateCode i.gate ++ itemCode t i.item ++ line := by
  obtain ⟨gate, item⟩ := i
  cases gate <;> simp [itemParagraphs, paragraphs, gateCode, attributeCode, line, space]

theorem paragraphs_flatMap {α : Type} {as : List α} {f : α → List (Document × Nat)} :
    paragraphs (as.flatMap f) = as.flatMap fun a => paragraphs (f a) :=
  List.flatMap_assoc

theorem isBalanced_of_mem_itemParagraphs {i : GatedItem} :
    ∀ d ∈ itemParagraphs t i, d.1.IsBalanced ∧ d.1 ≠ [] := by
  refine List.forall_mem_append.mpr ⟨List.forall_mem_map.mpr fun gate _ => ?_, ?_⟩
  case refine_1 => exact ⟨isBalanced_attributeCode, by simp [attributeCode, Document.text]⟩
  case refine_2 => exact List.forall_mem_singleton.mpr ⟨isBalanced_itemCode, itemCode_ne_nil⟩

theorem join_alone_itemParagraphs {i : GatedItem} :
    (itemParagraphs t i).flatMap (·.1.alone.toList) =
      (i.gate.elim "" gateText ++ itemText t i.item).toList := by
  obtain ⟨gate, item⟩ := i
  cases gate <;> simp [itemParagraphs, gateText, itemText]

-- A module is printed item by item.
theorem text_eq (m : Module) : m.text = header m.root ++ String.join (m.items.map fun i =>
    i.gate.elim "" gateText ++ itemText m.types i.item) := by
  have hc : m.code = together 0 (paragraphs (m.items.flatMap (itemParagraphs m.types))) := by
    simp only [code, paragraphs_flatMap, paragraphs_itemParagraphs]
  rw [text, hc]
  congr 1
  cases hi : m.items
  case nil => rfl
  case cons i items =>
    refine String.toList_inj.mp ?_
    rw [print_eq_join ?balanced ?line, String.toList_join, String.toList_join]
    case balanced =>
      intro d hd
      obtain ⟨i, _, hd⟩ := List.mem_flatMap.mp hd
      exact isBalanced_of_mem_itemParagraphs d hd
    case line =>
      refine ⟨(itemCode m.types i.item, infinite), List.mem_flatMap.mpr ⟨i, .head _, ?_⟩, rfl⟩
      exact List.mem_append_right _ (List.mem_singleton.mpr rfl)
    simp only [List.flatMap_map, List.flatMap_assoc, join_alone_itemParagraphs]

-- The same module with a gate in front of every item.
def gated (gate : List Token) (m : Module) : Module :=
  { m with items := m.items.map fun i => { i with gate := some gate } }

-- What a gate makes of an item that has none.
def withGate (gate : List Token) (i : GatedItem) : GatedItem :=
  { i with gate := some gate }

theorem importItem_gated {gate : List Token} :
    importItem f ⟨path, some gate⟩ = List.map (withGate gate) <$> importItem f ⟨path, none⟩ := by
  cases path
  case none => rfl
  case some path =>
    simp only [importItem]
    cases f.layout.typeNames.mapM fun name => identifier name name <;> rfl

theorem itemsFor_gated {gate : List Token} {n : ModuleNames} :
    itemsFor (some gate) project f n = (itemsFor none project f n).map (withGate gate) := by
  have hc : (List.zipWith (constantItem none) f.leaves n.leaves).map (withGate gate) =
      List.zipWith (constantItem (some gate)) f.leaves n.leaves := List.map_zipWith ..
  have hh : ((helpersFor f.leaves).map (helperItem none)).map (withGate gate) =
      (helpersFor f.leaves).map (helperItem (some gate)) := List.map_map
  simp only [itemsFor, List.map_append, hc, hh]
  rfl

theorem build_gated {gate : List Token} :
    build project f ⟨path, some gate⟩ = gated gate <$> build project f ⟨path, none⟩ := by
  simp only [build, importItem_gated, itemsFor_gated]
  cases ModuleNames.ofFlattened f
  case error => rfl
  case ok n =>
    cases importItem f ⟨path, none⟩
    case error => rfl
    case ok imports =>
      let moduleOf (items : List GatedItem) : Except Problem Module :=
        .ok ⟨f.layout.type.name, ⟨n.sentinels, n.loadError⟩, items⟩
      exact congrArg moduleOf List.map_append.symm

-- Whether an item can be read back does not depend on its gate.
theorem check_gated {gate : List Token} : (m.gated gate).check = m.check := by
  have hc (i : GatedItem) : checkItem (m.gated gate) (withGate gate i) = checkItem m i := by
    rw [checkItem_eq, checkItem_eq]
    rfl
  calc
    _ = m.items.forM fun i => checkItem (m.gated gate) (withGate gate i) := List.forM_map
    _ = m.check := by simp only [hc]; rfl

theorem render_gated {gate : List Token} :
    render project f ⟨path, some gate⟩ = gated gate <$> render project f ⟨path, none⟩ := by
  unfold render
  rw [build_gated]
  cases build project f ⟨path, none⟩
  case error => rfl
  case ok m  =>
    calc
      _ = (m.gated gate).check >>= fun _ => .ok (m.gated gate) := rfl
      _ = m.check >>= fun _ => .ok (m.gated gate) := by rw [check_gated]
      _ = gated gate <$> (m.check >>= fun _ => .ok m) := by cases m.check <;> rfl

theorem gate_eq_none (h : render project f ⟨path, none⟩ = .ok m) : ∀ i ∈ m.items, i.gate = none :=
  gate_of_build (render_eq_ok.mp h).left

-- A module is rendered with a gate just as without one, but for the same attribute in front of each item.
theorem render_with_gate (project : String) (f : Flattened) (path : Option (List Token)) (gate : List Token) :
    render project f ⟨path, some gate⟩ = gated gate <$> render project f ⟨path, none⟩ ∧
    ∀ m, render project f ⟨path, none⟩ = .ok m → (∀ i ∈ m.items, i.gate = none) ∧
      m.text = header m.root ++ String.join (m.items.map fun i => itemText m.types i.item) ∧
      (m.gated gate).text = header m.root ++
        String.join (m.items.map fun i => gateText gate ++ itemText m.types i.item) := by
  refine ⟨render_gated, fun m hm => ?_⟩
  have hn : ∀ i ∈ m.items, i.gate = none := gate_eq_none hm
  refine ⟨hn, ?ungated, ?gated⟩
  case ungated =>
    have hi : m.items.map (fun i => i.gate.elim "" gateText ++ itemText m.types i.item) =
        m.items.map fun i => itemText m.types i.item :=
      List.map_congr_left fun i hi => by rw [hn i hi, Option.elim, String.empty_append]
    rw [text_eq, hi]
  case gated =>
    rw [text_eq, gated, List.map_map]
    rfl

def testGate : List Token :=
  [.ident (.plain "test") 0]

example : gateText testGate = "#[cfg(test)]\n" := by
  cbv

theorem unruly_with_gate : ∃ project f path m, render project f ⟨path, none⟩ = .ok m ∧
    render project f ⟨path, some testGate⟩ = .ok (m.gated testGate) ∧
    m.text = header m.root ++ String.join (m.items.map fun i => itemText m.types i.item) ∧
    (m.gated testGate).text = header m.root ++
      String.join (m.items.map fun i => gateText testGate ++ itemText m.types i.item) := by
  obtain ⟨out, h, -⟩ := Sample.unruly_generates
  obtain ⟨s⟩ := Generator.generate_eq_ok.mp h
  obtain ⟨path, ho⟩ : ∃ path, s.options = ⟨path, none⟩ := by
    have hg := s.given
    simp only [Generator.options, bind_eq_ok, pure_eq_ok] at hg
    obtain ⟨path, -, gate, hg, ho⟩ := hg
    cases hg
    exact ⟨_, ho.symm⟩
  have hm : render s.project s.flattened ⟨path, none⟩ = .ok s.module :=
    render_eq_ok.mpr ⟨ho ▸ s.built, s.checked⟩
  obtain ⟨hr, ht⟩ := render_with_gate s.project s.flattened path testGate
  obtain ⟨-, hu, hg⟩ := ht s.module hm
  exact ⟨s.project, s.flattened, path, s.module, hm, by rw [hr, hm]; rfl, hu, hg⟩

end Module
end EnvConfig
