import EnvConfig.Proofs.Items
import EnvConfig.Proofs.Loading
import EnvConfig.Proofs.Words

-- A module is closed: what is used in one of its items is declared in another one, once, and nothing that
-- has been declared for the loader is left over.

namespace EnvConfig

open Source Layout Layout.Document Layout.Code

theorem Fields.typeNames_map {α β : Type} (g : α → β) (t : Fields α) :
    (t.map g).typeNames = t.typeNames := by
  induction t <;> simp_all [Fields.map, typeNames]

theorem Record.typeNames_map {α β : Type} (g : α → β) (r : Record α) : (r.map g).typeNames = r.typeNames := by
  simp [typeNames, Record.map, Fields.typeNames_map]

-- The variants by which the problems with a variable are reported.
def VariableRead.variants (r : VariableRead) : List String :=
  r.missing :: (r.interpretation.map (·.invalid)).toList

namespace Module

-- Whether reading a variable calls a helper, and whether it adds to the list of invalid values.
def callsIn (m : Module) (r : VariableRead) (h : Helper) : Prop :=
  h.name ∈ words (readCode m.types.sentinels r)

def pushesInvalidIn (m : Module) (r : VariableRead) : Prop :=
  "invalid" ∈ words (readCode m.types.sentinels r)

structure Closed (m : Module) (f : Flattened) (o : ModuleOptions) (arms : SentinelArms) (l : Loader) :
    Prop where
  -- Whatever is named is declared once.
  constants : ∀ name ∈ arms.keys.map (·.2) ++ l.reads.map (·.constant),
    (m.constants.map (·.name)).count name = 1
  variants  : ∀ name ∈ arms.keys.map (·.1) ++ arms.flags.map (·.1) ++ l.reads.flatMap (·.variants),
    (m.variants.map (·.name)).count name = 1
  bindings  : ∀ name ∈ l.literal.contents, (l.reads.map (·.binding)).count name = 1
  -- Each leaf is read once, and each value is moved into the record once.
  reads     : l.reads.map (m.key? ·.constant) = f.leaves.map (some ·.key)
  once      : (l.reads.map (m.key? ·.constant)).Nodup
  moved     : ∀ r ∈ l.reads, l.literal.contents.count r.binding = 1
  -- So it is written: each value is taken out of one option, and stands in the record once, where nothing else
  -- but a type can be called like it.
  taken     : ∀ name ∈ l.literal.contents ++ l.reads.map (·.binding),
    (words (presentPattern (l.reads.map (·.binding)))).count name = 1 ∧
    (words (presentOptions (l.reads.map (·.binding)))).count name = 1
  placed    : ∀ name ∈ l.literal.contents ++ l.reads.map (·.binding),
    (words (literalCode l.literal)).count name = 1 + (l.literal.records.map (·.type.text)).count name
  -- Each variant has one arm in each method.
  keys      : ∀ v ∈ m.variants, (arms.keys.map (·.1)).count v.name = 1
  flags     : ∀ v ∈ m.variants, (arms.flags.map (·.1)).count v.name = 1
  -- What depends on the leaves is there if and only if it is used.
  helpers   : m.helpers.Nodup ∧ ∀ h, h ∈ m.helpers ↔ ∃ r ∈ l.reads, m.callsIn r h
  invalid   : l.invalidMutable ↔ ∃ r ∈ l.reads, m.pushesInvalidIn r
  imports   : ∀ path, o.typesPath = some path → m.imports.Pairwise (· < ·) ∧
    ∀ name, name ∈ m.imports ↔ ∃ r ∈ l.literal.records, r.type.name = name

section

variable {leaves : List Leaf} {l : Leaf} {name : String} {h : Helper}

theorem variants_keys : (armsFor leaves).keys.map (·.1) = (variantsFor leaves).map (·.1.name) := by
  simp [armsFor, Function.comp_def]

theorem constants_keys : (armsFor leaves).keys.map (·.2) = (variantsFor leaves).map (·.2.1) := by
  simp [armsFor, Function.comp_def]

theorem variants_flags : (armsFor leaves).flags.map (·.1) = (variantsFor leaves).map (·.1.name) := by
  simp [armsFor, Function.comp_def]

theorem mem_constants_variantsFor (h : name ∈ (variantsFor leaves).map (·.2.1)) :
    ∃ l ∈ leaves, Naming.constantName l.key = name := by
  simp only [variantsFor, List.mem_map, List.mem_flatMap] at h
  obtain ⟨_, ⟨l, hl, hv⟩, rfl⟩ := h
  refine ⟨l, hl, ?_⟩
  simp only [leafVariants, List.mem_cons, List.mem_map] at hv
  obtain rfl | ⟨_, _, rfl⟩ := hv <;> rfl

theorem mem_variantsFor_of_leafRead (hl : l ∈ leaves) (h : name ∈ (leafRead l l.names).variants) :
    name ∈ (variantsFor leaves).map (·.1.name) := by
  simp only [variantsFor, List.mem_map, List.mem_flatMap]
  cases List.mem_cons.mp h
  case inl h => exact ⟨_, ⟨l, hl, .head _⟩, h.symm⟩
  case inr h =>
    have hi : l.invalid = some name := by simpa [leafRead, Leaf.names] using h
    refine ⟨(invalidVariant l name, Naming.constantName l.key, false), ⟨l, hl, ?_⟩, rfl⟩
    simp [leafVariants, Leaf.names, hi]

theorem mem_helpersFor : h ∈ helpersFor leaves ↔ ∃ l ∈ leaves, l.parsing.parse.helper? = some h := by
  have hb (l : Leaf) : l.parsing.parse.helper? = some .bool ↔ l.parsing.parse = .bool := by
    cases l.parsing.parse <;> decide
  have hd (l : Leaf) : l.parsing.parse.helper? = some .duration ↔ l.parsing.parse = .duration := by
    cases l.parsing.parse <;> decide
  cases h <;> simp [helpersFor, hb, hd]

theorem helpersFor_nodup : (helpersFor leaves).Nodup := by
  simp only [helpersFor]
  split <;> split <;> decide

end

-- A name that can be taken for nothing else that is written around it, types apart.
structure IsLocal (name : String) : Prop where
  head  : name.toList.head? = some 'v'
  space : ' ' ∉ name.toList

namespace IsLocal

variable {name : String} {bindings : List String}

theorem of_nameable {l : Leaf} (h : l.Nameable) : IsLocal l.binding where
  head  := by simp [Leaf.binding, FieldPath.binding]
  space := fun hs => absurd (h.binding _ hs).space (by decide)

theorem not_mem (h : IsLocal name) (ws : List String) (hw : ∀ w ∈ ws, w.toList.head? ≠ some 'v') : name ∉ ws :=
  fun hm => hw name hm h.head

theorem ne_label (h : IsLocal name) (field : String) : field ++ ": " ≠ name := by
  rintro rfl
  exact h.space (by simp)

theorem count_presentPattern (h : IsLocal name) :
    (words (presentPattern bindings)).count name = bindings.count name := by
  have hw := h.not_mem ["(", ",", ")"] (by decide)
  have hs (b : String) : (words (call (Document.text "Some") [Document.text b])).count name = [b].count name := by
    have hs := h.not_mem ["Some", "(", ")"] (by decide)
    simp only [List.mem_cons, List.not_mem_nil, or_false, not_or] at hs
    simp [List.count_cons, Ne.symm hs.left, Ne.symm hs.right.left, Ne.symm hs.right.right]
  rw [presentPattern, count_words_tuple hw, List.flatMap_map]
  induction bindings
  case nil => rfl
  case cons b bindings hi =>
    rw [List.flatMap_cons, List.count_append, hs, hi, ← List.count_append, List.singleton_append]

theorem count_presentOptions (h : IsLocal name) :
    (words (presentOptions bindings)).count name = bindings.count name := by
  have hw := h.not_mem ["(", ",", ")"] (by decide)
  rw [presentOptions, count_words_tuple hw]
  simp [List.flatMap_map]

theorem count_literalFields (h : IsLocal name) (fields : Fields String) :
    ((literalFields fields).flatMap words).count name =
      fields.contents.count name + (fields.records.map (·.type.text)).count name := by
  have hw := h.not_mem [" \x7b", ",", "\x7d"] (by decide)
  induction fields
  case nil => rfl
  case leaf field binding rest hi =>
    have hf := h.ne_label field.text
    simp only [literalFields, Fields.contents, Fields.records, List.flatMap_cons, words_field, words_text,
      List.count_append, List.count_cons_of_ne hf, List.count_cons, List.count_nil, hi]
    omega
  case record field type inner rest hi hi' =>
    have hf := h.ne_label field.text
    simp only [literalFields, Fields.contents, Fields.records, List.flatMap_cons, words_field, List.cons_append,
      List.map_cons, List.map_append, List.count_append, List.count_cons_of_ne hf, count_words_literal hw,
      List.count_cons, List.count_nil, hi, hi']
    omega

theorem count_literalCode (h : IsLocal name) (r : Record String) :
    (words (literalCode r)).count name = r.contents.count name + (r.records.map (·.type.text)).count name := by
  have hw := h.not_mem [" \x7b", ",", "\x7d"] (by decide)
  rw [literalCode, count_words_literal hw, h.count_literalFields, Record.contents, Record.records, List.map_cons]
  simp only [List.count_cons, List.count_nil]
  omega

end IsLocal

section

variable {project : String} {r : Record Leaf}

-- The literal of a record's loader is the record with the local variables in place.
theorem literal_loaderFor :
    (loaderFor project (.ofRecord r) (Flattened.ofRecord r).names).literal = r.map (·.binding) := by
  have hb : bindingOf (Flattened.ofRecord r).names = fun i => (r.contents[i]?.map (·.binding)).getD "" := by
    funext i
    cases hi : r.contents[i]? <;> simp [bindingOf, Flattened.names, Flattened.ofRecord, hi, Leaf.names]
  calc
    _ = r.numbered.map (bindingOf (Flattened.ofRecord r).names) := rfl
    _ = r.map (·.binding) := by rw [hb, Serves.literal_eq]

end

section

variable {project : String} {f : Flattened} {o : ModuleOptions} {m : Module}
variable (hl : ∀ l ∈ f.leaves, l.Nameable) (h : build project f o = .ok m)
include hl h

-- What is imported are the types of the literal.
theorem imports_eq_typeNames {path : List Token} (hp : o.typesPath = some path) :
    m.imports = (loaderFor project f f.names).literal.typeNames := by
  rw [imports_eq hl h, hp]
  simp [loaderFor, Record.typeNames_map]

theorem names_constants : m.constants.map (·.name) = f.leaves.map (Naming.constantName ·.key) := by
  rw [constants_eq hl h, List.map_map]
  rfl

theorem names_variants : m.variants.map (·.name) = (variantsFor f.leaves).map (·.1.name) := by
  rw [variants_eq hl h, List.map_map]
  rfl

theorem constants_nodup (hk : (f.leaves.map (·.key)).Nodup) : (m.constants.map (·.name)).Nodup := by
  have hn := hk.map fun _ _ => Naming.constantName_inj
  rw [names_constants hl h]
  simpa [Function.comp_def] using hn

theorem variants_nodup (hi : (f.leaves.flatMap (·.identifiers)).Nodup) : (m.variants.map (·.name)).Nodup := by
  rw [names_variants hl h]
  exact Declares.names_variantsFor_nodup hi

end

section

variable {m : Module} {l : Leaf} {h : Helper}

theorem callsIn_leafRead (hf : l.invalid.isSome = l.parsing.canFail) :
    m.callsIn (leafRead l l.names) h ↔ l.parsing.parse.helper? = some h := by
  refine (name_mem_words_readCode (by simp [leafRead, Leaf.names, Naming.constantName])).trans ?_
  cases hi : l.invalid
  case some => simp [leafRead, Leaf.names, hi]
  case none =>
    have hp : l.parsing.parse = .raw := by simpa [hi, Parsing.canFail] using hf
    simp [leafRead, Leaf.names, hi, hp, Parse.helper?]

theorem pushesInvalidIn_leafRead : m.pushesInvalidIn (leafRead l l.names) ↔ l.invalid.isSome := by
  refine (invalid_mem_words_readCode (by simp [leafRead, Leaf.names, Naming.constantName])).trans ?_
  simp [leafRead, Leaf.names]

end

section

variable {c : Catalog} {root project title : String} {f : Flattened} {o : ModuleOptions} {m : Module}

theorem closed_of_build (hf : c.flatten root project = .ok f) (hu : Uniqueness.check f.leaves = .ok ())
    (hm : build title f o = .ok m) :
    ∃ arms l, m.methods = [arms] ∧ m.loaders = [l] ∧ m.Closed f o arms l := by
  have hl := Catalog.nameable_of_flatten hf
  obtain ⟨hk, hi⟩ := Uniqueness.check_eq_ok.mp hu
  obtain ⟨r, rfl, _, s⟩ := serves_of_build hf hu hm
  let l := loaderFor title (.ofRecord r) (Flattened.ofRecord r).names
  have hc := constants_nodup hl hm hk
  have hv := variants_nodup hl hm hi
  have hn := names_variants hl hm
  have hr : l.reads = r.contents.map fun l => leafRead l l.names := reads_loaderFor
  have hb : l.reads.map (·.binding) = r.contents.map (·.binding) := by
    rw [hr, List.map_map]
    rfl
  have ht : l.literal.contents = r.contents.map (·.binding) := by rw [literal_loaderFor, Record.contents_map]
  have hs : l.reads.map (m.key? ·.constant) = r.contents.map (some ·.key) := by
    rw [hr, List.map_map]
    exact List.map_congr_left fun _ hl => s.declares.key?_eq hl
  refine ⟨armsFor r.contents, l, methods_eq hl hm, loaders_eq hl hm, ?_⟩
  refine ⟨?constants, ?variants, ?bindings, hs, ?once, ?moved, ?taken, ?placed, ?keys, ?flags, ?helpers, ?invalid,
    ?imports⟩
  case constants =>
    intro name h
    refine List.count_eq_one_of_mem hc ?_
    rw [names_constants hl hm]
    cases List.mem_append.mp h
    case inl h => exact List.mem_map.mpr <| mem_constants_variantsFor (constants_keys ▸ h)
    case inr h => simpa [hr, leafRead, Leaf.names, Flattened.ofRecord] using h
  case variants =>
    intro name h
    refine List.count_eq_one_of_mem hv ?_
    simp only [variants_keys, variants_flags, hr, List.flatMap_map, List.mem_append, or_self] at h
    rw [hn]
    cases h
    case inl h => exact h
    case inr h =>
      obtain ⟨_, hl, h⟩ := List.mem_flatMap.mp h
      exact mem_variantsFor_of_leafRead hl h
  case bindings => exact fun name h => hb ▸ List.count_eq_one_of_mem s.bindings_nodup (ht ▸ h)
  case once =>
    have hk := hk.map fun _ _ => Option.some.inj
    simpa [hs, Function.comp_def, Flattened.ofRecord] using hk
  case moved =>
    intro r h
    exact ht ▸ List.count_eq_one_of_mem s.bindings_nodup (hb ▸ List.mem_map_of_mem h)
  case taken =>
    intro name h
    rw [hb, ht, List.mem_append, or_self] at h
    obtain ⟨leaf, hm, rfl⟩ := List.mem_map.mp h
    have hn := IsLocal.of_nameable (hl leaf hm)
    rw [hn.count_presentPattern, hn.count_presentOptions, hb]
    exact ⟨List.count_eq_one_of_mem s.bindings_nodup h, List.count_eq_one_of_mem s.bindings_nodup h⟩
  case placed =>
    intro name h
    rw [hb, ht, List.mem_append, or_self] at h
    obtain ⟨leaf, hm, rfl⟩ := List.mem_map.mp h
    rw [(IsLocal.of_nameable (hl leaf hm)).count_literalCode, ht, List.count_eq_one_of_mem s.bindings_nodup h]
  case keys =>
    intro v h
    exact variants_keys ▸ hn ▸ List.count_eq_one_of_mem hv (List.mem_map_of_mem h)
  case flags =>
    intro v h
    exact variants_flags ▸ hn ▸ List.count_eq_one_of_mem hv (List.mem_map_of_mem h)
  case helpers =>
    have hh := helpers_eq hl hm
    refine ⟨hh ▸ helpersFor_nodup, fun h => ?_⟩
    calc
      _ ↔ ∃ l ∈ r.contents, l.parsing.parse.helper? = some h := by rw [hh]; exact mem_helpersFor
      _ ↔ ∃ l ∈ r.contents, m.callsIn (leafRead l l.names) h :=
        exists_congr fun l => and_congr_right fun hl => (callsIn_leafRead (s.fallible l hl)).symm
      _ ↔ _ := by simp only [hr, List.mem_map, exists_exists_and_eq_and]
  case invalid =>
    calc
      _ ↔ ∃ l ∈ r.contents, l.invalid.isSome := by
        simp [l, loaderFor, ModuleNames.anyInvalid, Flattened.names, Flattened.ofRecord, Leaf.names]
      _ ↔ ∃ l ∈ r.contents, m.pushesInvalidIn (leafRead l l.names) := by simp only [pushesInvalidIn_leafRead]
      _ ↔ _ := by simp only [hr, List.mem_map, exists_exists_and_eq_and]
  case imports =>
    intro path hp
    exact imports_eq_typeNames hl hm hp ▸ ⟨Record.typeNames_sorted _, fun _ => Record.mem_typeNames⟩

theorem cluster_closed :
    ∃ f m, Catalog.clusters.flatten "Cluster" "APP" = .ok f ∧ Uniqueness.check f.leaves = .ok () ∧
      build "APP" f ⟨some [.ident (.plain "super") 0], none⟩ = .ok m ∧
      ∃ arms l, m.methods = [arms] ∧ m.loaders = [l] ∧
        m.Closed f ⟨some [.ident (.plain "super") 0], none⟩ arms l := by
  have ⟨m, h⟩ := exists_eq_ok (x := do
    let f ← Catalog.clusters.flatten "Cluster" "APP"
    Uniqueness.check f.leaves
    build "APP" f ⟨some [.ident (.plain "super") 0], none⟩) (by decide +kernel)
  simp only [bind_eq_ok] at h
  obtain ⟨f, hf, _, hu, hm⟩ := h
  exact ⟨f, m, hf, hu, hm, closed_of_build hf hu hm⟩

end

end Module
end EnvConfig
