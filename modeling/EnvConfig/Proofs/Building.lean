import EnvConfig.Module.Build
import EnvConfig.Module.Loading
import EnvConfig.Proofs.Names
import Mathlib.Data.List.Flatten
import Mathlib.Data.List.Nodup

-- What a module declares for the leaves it has been built for, and that its names can be looked up.

namespace EnvConfig

open Source

-- A key that occurs once is found.
theorem lookup_of_mem {α β : Type} [DecidableEq α] {l : List (α × β)} {a : α} {b : β}
    (hn : (l.map (·.1)).Nodup) (h : (a, b) ∈ l) : l.lookup a = some b := by
  obtain ⟨s, t, rfl⟩ := List.append_of_mem h
  refine List.lookup_eq_some_iff.mpr ⟨s, t, rfl, fun p hp => ?_⟩
  simp only [List.map_append, List.map_cons, List.nodup_append] at hn
  simpa using Ne.symm <| hn.right.right _ (List.mem_map_of_mem hp) a (.head _)

namespace Module

def variantsFor (leaves : List Leaf) : List (Variant × String × Bool) :=
  leaves.flatMap fun l => leafVariants l l.names

-- The parts of a module that matter to loading are those for the leaves of a record, in their order.
structure Declares (m : Module) (f : Flattened) : Prop where
  constants : m.constants = f.leaves.map fun l => keyConstant l l.names
  arms      : m.arms? = some {
    keys  := (variantsFor f.leaves).map fun (v, constant, _) => (v.name, constant)
    flags := (variantsFor f.leaves).map fun (v, _, isMissing) => (v.name, isMissing) }
  loader    : ∃ l, m.loader? = some l ∧ l.reads = f.leaves.map (fun l => leafRead l l.names) ∧
    l.literal = f.layout.map fun i => (f.leaves[i]?.map (·.binding)).getD ""

theorem importItem_eq_ok {f : Flattened} {o : ModuleOptions} {items : List GatedItem}
    (h : importItem f o = .ok items) : items = [] ∨ ∃ p names, items = [⟨o.gate, .imports p names⟩] := by
  unfold importItem at h
  split at h
  case h_1 => exact .inl (Except.ok.inj h).symm
  case h_2 p _ =>
    simp only [bind_eq_ok, pure_eq_ok] at h
    obtain ⟨names, _, rfl⟩ := h
    exact .inr ⟨p, names, rfl⟩

-- Every kind of items stands behind the gate, so that all items do.
theorem gate_of_mem_itemsFor {gate : Option (List Token)} {project : String} {f : Flattened} {n : ModuleNames} :
    ∀ i ∈ itemsFor gate project f n, i.gate = gate := by
  have hc : ∀ i ∈ List.zipWith (constantItem gate) f.leaves n.leaves, i.gate = gate := by
    rw [← List.map_uncurry_zip_eq_zipWith]
    exact List.forall_mem_map.mpr fun _ _ => rfl
  have hh : ∀ i ∈ (helpersFor f.leaves).map (helperItem gate), i.gate = gate :=
    List.forall_mem_map.mpr fun _ _ => rfl
  simp only [itemsFor, List.forall_mem_append]
  exact ⟨⟨⟨⟨hc, by simp [sentinelItems]⟩, by simp [loadErrorItems]⟩, by simp [loaderItem]⟩, hh⟩

theorem gate_of_build {project : String} {f : Flattened} {o : ModuleOptions} {m : Module}
    (h : build project f o = .ok m) : ∀ i ∈ m.items, i.gate = o.gate := by
  simp only [build, bind_eq_ok, pure_eq_ok] at h
  obtain ⟨n, -, imports, hi, rfl⟩ := h
  refine List.forall_mem_append.mpr ⟨?_, gate_of_mem_itemsFor⟩
  obtain rfl | ⟨_, _, rfl⟩ := importItem_eq_ok hi <;> simp

theorem declares_of_build {project : String} {f : Flattened} {o : ModuleOptions} {m : Module}
    (hl : ∀ l ∈ f.leaves, l.Nameable) (h : build project f o = .ok m) : m.Declares f := by
  simp only [build, bind_eq_ok, pure_eq_ok] at h
  obtain ⟨n, hn, imports, hi, rfl⟩ := h
  have hn := ModuleNames.leaves_eq hl hn
  have hz {α : Type} (g : Leaf → LeafNames → α) :
      List.zipWith g f.leaves n.leaves = f.leaves.map fun l => g l l.names := by
    rw [hn, List.zipWith_map_right, List.zipWith_self]
  -- Neither imports nor constants stand in the way of what is looked for behind them.
  have hc {α : Type} {g : GatedItem → Option α} (hg : ∀ k, g ⟨o.gate, .constant k⟩ = none) :
      (f.leaves.map fun l => constantItem o.gate l l.names).findSome? g = none := by
    simp [constantItem, hg]
  refine ⟨?constants, ?arms, ?loader⟩
  case constants =>
    obtain rfl | ⟨_, _, rfl⟩ := importItem_eq_ok hi
    all_goals simp [constants, itemsFor, constantItem, sentinelItems, loadErrorItems, loaderItem, helperItem, hz,
      List.filterMap_map, Function.comp_def]
  case arms =>
    obtain rfl | ⟨_, _, rfl⟩ := importItem_eq_ok hi
    all_goals simp [arms?, itemsFor, sentinelItems, hz, hc, variantsFor, List.flatMap_def, Function.comp_def]
  case loader =>
    refine ⟨loaderFor project f n, ?found, ?reads, ?literal⟩
    case found =>
      obtain rfl | ⟨_, _, rfl⟩ := importItem_eq_ok hi
      all_goals simp [loader?, itemsFor, sentinelItems, loadErrorItems, loaderItem, hz, hc, Function.comp_def]
    case reads => simp [loaderFor, hz]
    case literal =>
      have hb : bindingOf n = fun i => (f.leaves[i]?.map (·.binding)).getD "" := by
        funext i
        cases hi : f.leaves[i]? <;> simp [bindingOf, hn, hi, Leaf.names]
      simp [loaderFor, hb]

namespace Declares

variable {m : Module} {f : Flattened} {l : Leaf}

theorem key?_eq (d : m.Declares f) (hl : l ∈ f.leaves) :
    m.key? (Naming.constantName l.key) = some l.key := by
  have hs : (m.constants.find? (·.name = Naming.constantName l.key)).isSome := by
    simp only [List.find?_isSome, d.constants, List.mem_map]
    exact ⟨_, ⟨l, hl, rfl⟩, by simp [keyConstant, Leaf.names]⟩
  obtain ⟨k, hk⟩ := Option.isSome_iff_exists.mp hs
  have hm := List.mem_of_find?_eq_some hk
  rw [d.constants] at hm
  obtain ⟨l', _, rfl⟩ := List.mem_map.mp hm
  have he : (keyConstant l' l'.names).name = Naming.constantName l.key := by simpa using List.find?_some hk
  simp only [key?, hk]
  exact congrArg some <| Naming.constantName_inj he

theorem names_variantsFor_nodup {leaves : List Leaf} (h : (leaves.flatMap (·.identifiers)).Nodup) :
    ((variantsFor leaves).map (·.1.name)).Nodup := by
  refine h.sublist ?_
  rw [variantsFor, List.map_flatMap]
  refine List.Sublist.flatMap_right _ fun l _ => ?_
  simp [leafVariants, missingVariant, invalidVariant, Leaf.identifiers, Leaf.names, Function.comp_def]

-- As no two variants have the same name, the methods answer for each what has been declared for it.
theorem sentinel?_eq {v : Variant} {constant : String} {isMissing : Bool} (d : m.Declares f)
    (hu : (f.leaves.flatMap (·.identifiers)).Nodup) (hl : l ∈ f.leaves)
    (hv : (v, constant, isMissing) ∈ leafVariants l l.names) (hc : constant = Naming.constantName l.key) :
    m.sentinel? v.name = some ⟨v.name, l.key, isMissing⟩ := by
  let vs := variantsFor f.leaves
  have hn := names_variantsFor_nodup hu
  have hv : (v, constant, isMissing) ∈ vs := List.mem_flatMap.mpr ⟨l, hl, hv⟩
  have hk : (vs.map fun (v, constant, _) => (v.name, constant)).lookup v.name = some constant :=
    lookup_of_mem (by simpa [Function.comp_def] using hn) (List.mem_map_of_mem hv)
  have hf : (vs.map fun (v, _, isMissing) => (v.name, isMissing)).lookup v.name = some isMissing :=
    lookup_of_mem (by simpa [Function.comp_def] using hn) (List.mem_map_of_mem hv)
  simp [sentinel?, d.arms, vs, hk, hf, hc, d.key?_eq hl]

theorem missing (d : m.Declares f) (hu : (f.leaves.flatMap (·.identifiers)).Nodup) (hl : l ∈ f.leaves) :
    m.sentinel? l.missing = some ⟨l.missing, l.key, true⟩ :=
  d.sentinel?_eq (v := missingVariant l l.names) hu hl (.head _) rfl

theorem invalid {id : String} (d : m.Declares f) (hu : (f.leaves.flatMap (·.identifiers)).Nodup)
    (hl : l ∈ f.leaves) (hi : l.invalid = some id) : m.sentinel? id = some ⟨id, l.key, false⟩ := by
  refine d.sentinel?_eq (v := invalidVariant l id) hu hl ?_ rfl
  simp [leafVariants, Leaf.names, hi]

end Declares
end Module
end EnvConfig
