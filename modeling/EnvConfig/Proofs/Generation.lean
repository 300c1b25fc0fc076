import EnvConfig.Generator
import EnvConfig.Proofs.Results

-- What a run that ends well has gone through.

namespace EnvConfig

open Source

namespace Module

-- Nothing looks into the gate when its attribute is read.
theorem readAttribute_gate (gate : List Token) : readAttribute (gateAttribute gate) = .ok () :=
  rfl

-- So it is the code of an item that decides whether the item can be read back.
theorem checkItem_eq (m : Module) (i : GatedItem) : checkItem m i = checkCode m i.item := by
  obtain ⟨gate, item⟩ := i
  cases gate
  case none      => rfl
  case some gate =>
    calc
      _ = (checkGate m gate >>= fun _ => checkCode m item) := rfl
      _ = checkCode m item := by rw [checkGate, readAttribute_gate]; rfl

theorem render_eq_ok {project : String} {f : Flattened} {o : ModuleOptions} {m : Module} :
    render project f o = .ok m ↔ build project f o = .ok m ∧ m.check = .ok () := by
  simp only [render, bind_eq_ok, pure_eq_ok]
  constructor
  case mp => rintro ⟨_, hm, _, hc, rfl⟩; exact ⟨hm, hc⟩
  case mpr => exact fun ⟨hm, hc⟩ => ⟨m, hm, (), hc, rfl⟩

end Module

namespace Generator

-- The results on the way from a source text to what is generated.
structure Steps (g : Generator) (name source : String) (out : Generated) where
  project   : String
  options   : ModuleOptions
  catalog   : Catalog
  flattened : Flattened
  module    : Module
  prefixed  : g.project? = .ok project
  given     : g.options = .ok options
  declared  : Generator.catalog name source = .ok catalog
  expanded  : catalog.flatten g.root project = .ok flattened
  unique    : Uniqueness.check flattened.leaves = .ok ()
  built     : Module.build project flattened options = .ok module
  checked   : module.check = .ok ()
  result    : out = ⟨g.root, module, flattened.leaves⟩

theorem generate_eq_ok {g : Generator} {name source : String} {out : Generated} :
    g.generate name source = .ok out ↔ Nonempty (g.Steps name source out) := by
  simp only [generate, bind_eq_ok, pure_eq_ok, Module.render_eq_ok]
  constructor
  case mp =>
    rintro ⟨project, hp, o, ho, c, hc, f, hf, _, hu, m, ⟨hm, hk⟩, h⟩
    exact ⟨⟨project, o, c, f, m, hp, ho, hc, hf, hu, hm, hk, h.symm⟩⟩
  case mpr =>
    rintro ⟨s⟩
    exact ⟨_, s.prefixed, _, s.given, _, s.declared, _, s.expanded, (), s.unique, _, ⟨s.built, s.checked⟩,
      s.result.symm⟩

-- A path is given to the module if and only if one is given to the generator.
theorem isSome_typesPath_of_options {g : Generator} {o : ModuleOptions} (h : g.options = .ok o) :
    o.typesPath.isSome = g.typesPath.isSome := by
  simp only [options, bind_eq_ok, pure_eq_ok] at h
  obtain ⟨path, hp, _, _, rfl⟩ := h
  unfold option at hp
  split at hp
  case h_1 he => cases hp; simp [he]
  case h_2 he =>
    split at hp <;> cases hp
    simp [he]

end Generator
end EnvConfig
