import EnvConfig.Proofs.Closure
import EnvConfig.Proofs.Evaluation

-- Which names a module introduces, and that no two of its items introduce the same one unless a record has
-- the name of a type by which problems are reported.

namespace EnvConfig

open Source Text

namespace ModuleItem

-- The names that an item introduces for types.
def typeNames (t : ReportTypes) : ModuleItem → List String
  | imports _ names => names
  | sentinels ..    => [t.sentinels]
  | loadError _     => [t.loadError]
  | _               => []

-- The names that an item introduces for values.
def valueNames : ModuleItem → List String
  | constant c => [c.name]
  | loader l   => [l.name]
  | helper h   => [h.name]
  | _          => []

end ModuleItem

namespace Naming

theorem not_mem_toLower {c : Char} : 'E' ∉ toLower c := by
  by_cases hc : c = 'E'
  case pos =>
    subst hc
    decide
  case neg => exact fun h => LetterCase.ne_of_mem_apply (by decide) hc h rfl

-- A loader's name has no capital letters from any root, but every constant's has.
theorem not_mem_loaderName (root : String) : 'E' ∉ (loaderName root).toList := by
  intro h
  rw [loaderName, String.toList_append] at h
  cases List.mem_append.mp h
  case inl h => simp at h
  case inr h =>
    obtain h | h | ⟨c, _, h⟩ := SnakeCase.of_mem_snakeCase (String.toList_ofList ▸ h)
    case inl => exact absurd h (by decide)
    case inr.inl => exact absurd h (by decide)
    case inr.inr => exact not_mem_toLower h

theorem mem_constantName (key : String) : 'E' ∈ (constantName key).toList := by
  simp [constantName]

theorem loaderName_ne_helper (root : String) (h : Helper) : loaderName root ≠ h.name := by
  intro he
  have hh := congrArg (·.toList.head?) he
  cases h <;> simp [loaderName, Helper.name] at hh

end Naming

namespace Module

def typeNames (m : Module) : List String :=
  m.items.flatMap (·.item.typeNames m.types)

def valueNames (m : Module) : List String :=
  m.items.flatMap (·.item.valueNames)

section

variable {project : String} {f : Flattened} {o : ModuleOptions} {m : Module}
variable (hl : ∀ l ∈ f.leaves, l.Nameable) (h : build project f o = .ok m)
include hl h

theorem typeNames_eq : m.typeNames = m.imports ++
    [Naming.sentinelsName f.layout.type.name, Naming.loadErrorName f.layout.type.name] := by
  rw [eq_of_build hl h, itemsFor_names]
  simp [typeNames, imports, ModuleItem.typeNames, Flattened.importItems, List.flatMap_map, flatMap_nil]

theorem valueNames_eq : m.valueNames = f.leaves.map (Naming.constantName ·.key) ++
    Naming.loaderName f.layout.type.name :: (helpersFor f.leaves).map (·.name) := by
  rw [eq_of_build hl h, itemsFor_names]
  simp [valueNames, ModuleItem.valueNames, Flattened.importItems, List.flatMap_map, flatMap_nil, loaderFor,
    Flattened.names, keyConstant, Leaf.names, ← List.map_eq_flatMap]

theorem valueNames_nodup (hk : (f.leaves.map (·.key)).Nodup) : m.valueNames.Nodup := by
  have hc : (f.leaves.map (Naming.constantName ·.key)).Nodup := names_constants hl h ▸ constants_nodup hl h hk
  have hh : ((helpersFor f.leaves).map (·.name)).Nodup := helpersFor_nodup.map fun h h' => by
    cases h <;> cases h' <;> simp [Helper.name]
  rw [valueNames_eq hl h]
  refine List.nodup_append.mpr ⟨hc, List.nodup_cons.mpr ⟨?_, hh⟩, ?_⟩
  case refine_1 =>
    intro hm
    obtain ⟨h, _, he⟩ := List.mem_map.mp hm
    exact Naming.loaderName_ne_helper _ h he.symm
  case refine_2 =>
    rintro name hn _ hm rfl
    obtain ⟨l, _, rfl⟩ := List.mem_map.mp hn
    have hE := Naming.mem_constantName l.key
    cases List.mem_cons.mp hm
    case inl he => exact Naming.not_mem_loaderName _ (he ▸ hE)
    case inr hm =>
      obtain ⟨h, _, he⟩ := List.mem_map.mp hm
      exact absurd he (ne_of_isPlain (by decide) h.isPlain_name hE)

theorem imports_nodup : m.imports.Nodup := by
  rw [imports_eq hl h]
  cases o.typesPath
  case none => exact .nil
  case some =>
    have hs : f.layout.typeNames.Nodup :=
      f.layout.typeNames_sorted.imp fun {a b} (hlt : a < b) (he : a = b) => String.lt_irrefl b (he ▸ hlt)
    simpa using hs

-- Of the types, only those that are imported can have the name of another one.
theorem typeNames_nodup_iff : m.typeNames.Nodup ↔ ∀ name ∈ m.imports,
    name ≠ Naming.sentinelsName f.layout.type.name ∧ name ≠ Naming.loadErrorName f.layout.type.name := by
  have hi := imports_nodup hl h
  have hr : Naming.sentinelsName f.layout.type.name ≠ Naming.loadErrorName f.layout.type.name := fun he =>
    absurd ((String.append_right_inj _).mp he) (by decide)
  simp [typeNames_eq hl h, List.nodup_append, hi, hr]

end

end Module

namespace Generator

variable {g : Generator} {name source : String} {out : Generated}

theorem typesPath_of_options {o : ModuleOptions} (h : g.options = .ok o) (hp : g.typesPath.isSome) :
    ∃ path, o.typesPath = some path :=
  Option.isSome_iff_exists.mp (isSome_typesPath_of_options h ▸ hp)

-- The values of a module have distinct names, and so have its types, but for records that have the name of
-- a type by which problems are reported.
theorem nodup_of_generate (h : g.generate name source = .ok out) (hp : g.typesPath.isSome) :
    out.module.valueNames.Nodup ∧ ∃ l, out.module.loaders = [l] ∧
      (out.module.typeNames.Nodup ↔ ∀ r ∈ l.literal.records,
        r.type.name ≠ Naming.sentinelsName g.root ∧ r.type.name ≠ Naming.loadErrorName g.root) := by
  obtain ⟨s⟩ := generate_eq_ok.mp h
  have hl := Catalog.nameable_of_flatten s.expanded
  have hk := (Uniqueness.check_eq_ok.mp s.unique).left
  have ⟨path, hp⟩ := typesPath_of_options s.given hp
  have hr : s.flattened.layout.type.name = g.root := Catalog.root_of_flatten s.expanded
  have hi := Module.imports_eq_typeNames hl s.built hp
  rw [s.result]
  refine ⟨Module.valueNames_nodup hl s.built hk, _, Module.loaders_eq hl s.built, ?_⟩
  calc
    _ ↔ ∀ name ∈ s.module.imports,
        name ≠ Naming.sentinelsName g.root ∧ name ≠ Naming.loadErrorName g.root :=
      hr ▸ Module.typeNames_nodup_iff hl s.built
    _ ↔ _ := by
      simp only [hi, Record.mem_typeNames, forall_exists_index, and_imp, forall_apply_eq_imp_iff₂]

end Generator

namespace Sample

theorem unruly_nodup : ∃ out, unruly.generate = .ok out ∧ out.module.valueNames.Nodup := by
  obtain ⟨out, h, _⟩ := unruly_generates
  exact ⟨out, h, (Generator.nodup_of_generate h rfl).left⟩

-- A record in the root record has the name of the enumeration.
theorem unruly_not_nodup : ∃ out, unruly.generate = .ok out ∧ ¬out.module.typeNames.Nodup := by
  obtain ⟨out, h, hi⟩ := unruly_generates
  refine ⟨out, h, fun hn => ?_⟩
  obtain ⟨s⟩ := Generator.generate_eq_ok.mp h
  have hl := Catalog.nameable_of_flatten s.expanded
  have hm : out.module = s.module := congrArg Generated.module s.result
  have hr : s.flattened.layout.type.name = "C" := Catalog.root_of_flatten s.expanded
  have hd := (Module.typeNames_nodup_iff hl s.built).mp (hm ▸ hn) "CEnvError" (by simp [← hm, hi])
  exact hd.left (by rw [hr]; decide)

end Sample
end EnvConfig
