import EnvConfig.Proofs.Building
import EnvConfig.Proofs.Layout

-- The items of a module are those that the layout and the leaves of its record ask for: no name in them
-- changes when it is read as an identifier, so that all which is known of the derived names is known of the
-- module.

namespace EnvConfig

open Source Text

theorem Fields.typeNames_eq {α : Type} (t : Fields α) : t.typeNames = t.records.map (·.type.name) := by
  induction t <;> simp_all [typeNames, records]

namespace Record

theorem mem_insertName {name n : String} {ns : List String} :
    n ∈ insertName name ns ↔ n = name ∨ n ∈ ns := by
  induction ns
  case nil => simp [insertName]
  case cons m ns hi =>
    rw [insertName]
    split
    case isTrue => simp
    case isFalse hnlt =>
      split
      case isTrue => simp [hi, or_left_comm]
      case isFalse hngt =>
        have he : m = name := String.le_antisymm (String.not_lt.mp hnlt) (String.not_lt.mp hngt)
        simp [he]

theorem insertName_sorted {name : String} {ns : List String} (h : ns.Pairwise (· < ·)) :
    (insertName name ns).Pairwise (· < ·) := by
  induction ns
  case nil => simp [insertName]
  case cons m ns hi =>
    have ⟨hm, hns⟩ := List.pairwise_cons.mp h
    rw [insertName]
    split
    case isTrue hlt =>
      refine List.pairwise_cons.mpr ⟨?_, h⟩
      intro n hn
      cases List.mem_cons.mp hn
      case inl hn => exact hn ▸ hlt
      case inr hn => exact String.lt_trans hlt (hm n hn)
    case isFalse =>
      split
      case isTrue hlt =>
        refine List.pairwise_cons.mpr ⟨?_, hi hns⟩
        intro n hn
        cases mem_insertName.mp hn
        case inl hn => exact hn ▸ hlt
        case inr hn => exact hm n hn
      case isFalse => exact h

variable {α : Type}

theorem typeNames_sorted (r : Record α) : r.typeNames.Pairwise (· < ·) := by
  unfold typeNames
  induction r.type.name :: r.fields.typeNames
  case nil => exact .nil
  case cons hi => exact insertName_sorted hi

theorem mem_typeNames {r : Record α} {name : String} :
    name ∈ r.typeNames ↔ ∃ s ∈ r.records, s.type.name = name := by
  have h (ns : List String) : name ∈ ns.foldr insertName [] ↔ name ∈ ns := by
    induction ns <;> simp_all [mem_insertName]
  rw [typeNames, h, Fields.typeNames_eq]
  simp [records, eq_comm]

end Record

theorem mem_intercalate_singleton {α : Type} {sep a : α} {l : List (List α)} (h : a ∈ [sep].intercalate l) :
    a = sep ∨ ∃ w ∈ l, a ∈ w := by
  induction l
  case nil => cases h
  case cons w l hi =>
    cases l
    case nil => exact .inr ⟨w, .head _, by simpa using h⟩
    case cons =>
      simp only [List.intercalate_cons_cons, List.append_assoc, List.mem_append, List.mem_singleton] at h
      obtain h | h | h := h
      case inl => exact .inr ⟨w, .head _, h⟩
      case inr.inl => exact .inl h
      case inr.inr => exact (hi h).imp_right fun ⟨v, hv, h⟩ => ⟨v, .tail _ hv, h⟩

theorem exists_intercalate_cons {α : Type} (sep a : α) (w : List α) (l : List (List α)) :
    ∃ tail, [sep].intercalate ((a :: w) :: l) = a :: tail := by
  cases l <;> simp [List.intercalate_cons_cons]

namespace Text.SnakeCase

variable {c : Char} {s w : List Char}

-- The words of a text have no characters of their own.
theorem of_mem_words {mode : Case} {word : List Char} (hw : w ∈ words mode word s) (hc : c ∈ w) :
    c ∈ word ∨ c ∈ s := by
  induction mode, word, s using words.induct <;> unfold words at hw <;> grind

theorem of_mem_alphanumericRuns {run : List Char} (hw : w ∈ alphanumericRuns run s) (hc : c ∈ w) :
    c ∈ run ∨ c ∈ s := by
  induction s generalizing run
  case nil => simp_all [alphanumericRuns]
  case cons d s hi =>
    rw [alphanumericRuns] at hw
    split at hw
    case isTrue => grind
    case isFalse =>
      cases List.mem_cons.mp hw
      case inl hw => simp_all
      case inr hw => simpa using .inr (.inr ((hi hw).resolve_left List.not_mem_nil))

theorem of_mem_lowerWord (h : c ∈ lowerWord w) : c = 'ς' ∨ ∃ d ∈ w, c ∈ toLower d := by
  induction w using lowerWord.induct <;> unfold lowerWord at h <;> grind

-- Besides underscores and the final form of a sigma, there is nothing but letters in lower case.
theorem of_mem_snakeCase (h : c ∈ snakeCase s) : c = '_' ∨ c = 'ς' ∨ ∃ d ∈ s, c ∈ toLower d := by
  refine (mem_intercalate_singleton h).imp_right fun ⟨v, hv, hc⟩ => ?_
  obtain ⟨w, hw, rfl⟩ := List.mem_map.mp hv
  obtain ⟨run, hr, hw⟩ := List.mem_flatMap.mp hw
  refine (of_mem_lowerWord hc).imp_right fun ⟨d, hd, hc⟩ => ⟨d, ?_, hc⟩
  have hd : d ∈ run := by simpa using of_mem_words hw hd
  simpa using of_mem_alphanumericRuns hr hd

end Text.SnakeCase

theorem Naming.IsSolid.loaderName {root : String} (h : IsSolid root) : IsSolid (loaderName root) := by
  refine append (of_all (by decide)) fun c hc => ?_
  obtain rfl | rfl | ⟨d, hd, hc⟩ := SnakeCase.of_mem_snakeCase (String.toList_ofList ▸ hc)
  case inl => exact .of_isSolid (by decide)
  case inr.inl => exact .of_isSolid (by decide)
  case inr.inr => exact .of_mem_toLower (h d hd) hc

theorem Catalog.nameable_of_flatten {c : Catalog} {root project : String} {f : Flattened}
    (h : c.flatten root project = .ok f) : ∀ l ∈ f.leaves, l.Nameable := by
  obtain ⟨_, _, _, ht, rfl⟩ := flatten_eq_ok.mp h
  exact fun _ hl => (Expansion.of_expand ht).nameable hl

theorem Catalog.root_of_flatten {c : Catalog} {root project : String} {f : Flattened}
    (h : c.flatten root project = .ok f) : f.layout.type.name = root := by
  obtain ⟨_, _, hr, _, rfl⟩ := flatten_eq_ok.mp h
  exact name_of_get? hr

theorem flatMap_nil {α β : Type} (l : List α) : l.flatMap (fun _ => ([] : List β)) = [] :=
  List.flatMap_eq_nil_iff.mpr fun _ _ => rfl

namespace Flattened

-- All names of a record's module.
def names (f : Flattened) : ModuleNames where
  leaves    := f.leaves.map (·.names)
  sentinels := Naming.sentinelsName f.layout.type.name
  loadError := Naming.loadErrorName f.layout.type.name
  loader    := Naming.loaderName f.layout.type.name

-- The import of the types of the record and of all records in it.
def importItems (f : Flattened) (o : ModuleOptions) : List GatedItem :=
  o.typesPath.toList.map fun path => ⟨o.gate, .imports path f.layout.typeNames⟩

end Flattened

theorem ModuleNames.eq_names {f : Flattened} {n : ModuleNames} (hl : ∀ l ∈ f.leaves, l.Nameable)
    (h : ofFlattened f = .ok n) : n = f.names := by
  have hn := leaves_eq hl h
  simp only [ofFlattened, bind_eq_ok, pure_eq_ok] at h
  obtain ⟨leaves, _, sentinels, hs, loadError, he, loader, hf, rfl⟩ := h
  have hr := Naming.IsSolid.ident f.layout.type
  have hs := identifier_eq_ok (hr.append (.of_all (by decide))) hs
  have he := identifier_eq_ok (hr.append (.of_all (by decide))) he
  have hf := identifier_eq_ok hr.loaderName hf
  rw [Flattened.names, ← hn, hs, he, hf]
  rfl

namespace Module

-- All answers of the enumeration's methods, and all functions that load.
def methods (m : Module) : List SentinelArms :=
  m.items.filterMap fun i => if let .sentinelMethods a := i.item then some a else none

def loaders (m : Module) : List Loader :=
  m.items.filterMap fun i => if let .loader l := i.item then some l else none

-- What the enumeration's methods answer for all leaves.
def armsFor (leaves : List Leaf) : SentinelArms where
  keys  := (variantsFor leaves).map fun (v, constant, _) => (v.name, constant)
  flags := (variantsFor leaves).map fun (v, _, isMissing) => (v.name, isMissing)

variable {project : String} {f : Flattened} {o : ModuleOptions} {m : Module}

theorem importItem_eq {items : List GatedItem} (h : importItem f o = .ok items) : items = f.importItems o := by
  unfold importItem at h
  split at h
  case h_1 hp => simp [Flattened.importItems, hp, ← Except.ok.inj h]
  case h_2 p hp =>
    simp only [bind_eq_ok, pure_eq_ok] at h
    obtain ⟨names, hn, rfl⟩ := h
    have hn : names = f.layout.typeNames.map id := by
      refine eq_map_of_mapM_eq_ok (fun name hm id hi => ?_) hn
      obtain ⟨r, _, rfl⟩ := Record.mem_typeNames.mp hm
      exact identifier_eq_ok (.ident _) hi
    simp [Flattened.importItems, hp, hn]

theorem eq_of_build (hl : ∀ l ∈ f.leaves, l.Nameable) (h : build project f o = .ok m) : m = {
    root  := f.layout.type.name
    types := ⟨Naming.sentinelsName f.layout.type.name, Naming.loadErrorName f.layout.type.name⟩
    items := f.importItems o ++ itemsFor o.gate project f f.names } := by
  simp only [build, bind_eq_ok, pure_eq_ok] at h
  obtain ⟨n, hn, imports, hi, rfl⟩ := h
  rw [ModuleNames.eq_names hl hn, importItem_eq hi]
  rfl

-- With the names that the leaves ask for, each item is one of the leaves' or of the record's.
theorem itemsFor_names {gate : Option (List Token)} : itemsFor gate project f f.names =
    (f.leaves.map fun l => ⟨gate, .constant (keyConstant l l.names)⟩) ++ [
      ⟨gate, .sentinels (" A single variable problem reported by " ++ link f.names.loader ++ ".")
        ((variantsFor f.leaves).map (·.1))⟩,
      ⟨gate, .sentinelMethods (armsFor f.leaves)⟩,
      ⟨gate, .sentinelDisplay⟩,
      ⟨gate, .sentinelError⟩,
      ⟨gate, .loadError (" Every variable problem found by one call to " ++ link f.names.loader ++ ".")⟩,
      ⟨gate, .loadErrorMethods⟩,
      ⟨gate, .loadErrorDisplay⟩,
      ⟨gate, .loadErrorError⟩,
      ⟨gate, .loader (loaderFor project f f.names)⟩] ++
    (helpersFor f.leaves).map fun h => ⟨gate, .helper h⟩ := by
  have hz {α : Type} (g : Leaf → LeafNames → α) :
      List.zipWith g f.leaves f.names.leaves = f.leaves.map fun l => g l l.names := by
    rw [Flattened.names, List.zipWith_map_right, List.zipWith_self]
  simp [itemsFor, constantItem, sentinelItems, loadErrorItems, loaderItem, helperItem, hz, armsFor, variantsFor,
    List.flatMap_def, Function.comp_def]

theorem reads_loaderFor :
    (loaderFor project f f.names).reads = f.leaves.map fun l => leafRead l l.names := by
  simp [loaderFor, Flattened.names, List.zipWith_map_right]

-- The items of each kind.
section

variable (hl : ∀ l ∈ f.leaves, l.Nameable) (h : build project f o = .ok m)
include hl h

theorem constants_eq : m.constants = f.leaves.map fun l => keyConstant l l.names :=
  (declares_of_build hl h).constants

theorem variants_eq : m.variants = (variantsFor f.leaves).map (·.1) := by
  rw [eq_of_build hl h, itemsFor_names]
  simp [variants, Flattened.importItems, List.flatMap_map, flatMap_nil]

theorem methods_eq : m.methods = [armsFor f.leaves] := by
  rw [eq_of_build hl h, itemsFor_names]
  simp [methods, Flattened.importItems, List.filterMap_map]

theorem loaders_eq : m.loaders = [loaderFor project f f.names] := by
  rw [eq_of_build hl h, itemsFor_names]
  simp [loaders, Flattened.importItems, List.filterMap_map]

theorem helpers_eq : m.helpers = helpersFor f.leaves := by
  rw [eq_of_build hl h, itemsFor_names]
  simp [helpers, Flattened.importItems, List.filterMap_map]

theorem imports_eq : m.imports = o.typesPath.toList.flatMap fun _ => f.layout.typeNames := by
  rw [eq_of_build hl h, itemsFor_names]
  simp [imports, Flattened.importItems, List.flatMap_map, flatMap_nil]

end

end Module
end EnvConfig
