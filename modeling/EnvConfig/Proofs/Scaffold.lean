import EnvConfig.Proofs.Evaluation
import EnvConfig.Proofs.Keys
import EnvConfig.Proofs.Places
import EnvConfig.Proofs.RoundTrip

-- The scaffold, the constants, the enumeration and the loader of a run speak of the same variables, and the
-- scaffold as it stands is an environment in which nothing is missing.

namespace EnvConfig

open Source Text

-- The lines of a text, without their ends.
def Source.contentLines (text : String) : List (List Char) :=
  (lines text.toList).map withoutLineFeed

-- A scaffold has a line for each leaf.
theorem contentLines_scaffold {leaves : List Leaf} (h : ∀ l ∈ leaves, '\n' ∉ l.key.toList) :
    contentLines (scaffold leaves) = leaves.map (·.key.toList ++ ['=']) := by
  have hs (leaves : List Leaf) :
      (scaffold leaves).toList = leaves.flatMap (·.key.toList ++ ['=', '\n']) := by
    simp [scaffold, String.toList_join, List.flatMap_map]
  unfold contentLines
  induction leaves
  case nil => rfl
  case cons l leaves hi =>
    have ⟨hl, h⟩ := List.forall_mem_cons.mp h
    have hl : '\n' ∉ l.key.toList ++ ['='] := by simpa using hl
    have he : (scaffold (l :: leaves)).toList = (l.key.toList ++ ['=']) ++ '\n' :: (scaffold leaves).toList := by
      simp [hs]
    rw [he, lines_append hl, List.map_cons, hi h]
    simp [withoutLineFeed]

namespace Environment

-- Sets the variable in front of the first equality sign of a line to what is behind that.
def assign (env : Environment) (line : List Char) : Environment :=
  env.set (String.ofList (line.takeWhile (· ≠ '=')))
    (some (String.ofList (line.dropWhile (· ≠ '=')).tail).toUTF8.data.toList)

-- Sets the variables of a text, line by line.
def source (env : Environment) (text : String) : Environment :=
  (contentLines text).foldl assign env

theorem assign_key {env : Environment} {key : String} (h : '=' ∉ key.toList) :
    env.assign (key.toList ++ ['=']) = env.set key (some []) := by
  have hk : ∀ c ∈ key.toList, decide (c ≠ '=') = true := by
    intro c hc
    simpa using fun he : c = '=' => h (he ▸ hc)
  have ht : (key.toList ++ ['=']).takeWhile (· ≠ '=') = key.toList := by
    rw [List.takeWhile_append_of_pos hk]
    simp [List.takeWhile]
  have hd : (key.toList ++ ['=']).dropWhile (· ≠ '=') = ['='] := by
    rw [List.dropWhile_append_of_pos hk]
    rfl
  rw [assign, ht, hd]
  simp

-- Once a variable has been set to nothing, it stays so.
theorem foldl_set_eq {env : Environment} {keys : List String} {key : String}
    (h : key ∈ keys ∨ env key = some []) : keys.foldl (·.set · (some [])) env key = some [] := by
  induction keys generalizing env
  case nil => simpa using h
  case cons k keys hi =>
    refine hi ?_
    by_cases hk : key = k
    case pos => exact .inr (if_pos hk)
    case neg => exact h.imp (by simp [hk]) (if_neg hk).trans

theorem source_scaffold {env : Environment} {leaves : List Leaf} {l : Leaf}
    (hn : ∀ l ∈ leaves, '\n' ∉ l.key.toList) (he : ∀ l ∈ leaves, '=' ∉ l.key.toList) (hl : l ∈ leaves) :
    env.source (scaffold leaves) l.key = some [] := by
  have hs : env.source (scaffold leaves) = (leaves.map (·.key)).foldl (·.set · (some [])) env := by
    rw [source, contentLines_scaffold hn, List.foldl_map, List.foldl_map]
    exact List.foldl_ext _ _ _ fun _ l hl => assign_key (he l hl)
  exact hs ▸ foldl_set_eq (.inl (List.mem_map_of_mem hl))

end Environment

theorem Parsing.read_nil (p : Parsing) : p.read [] = if p.canFail then none else some (.string "") := by
  obtain ⟨parse, _, _⟩ := p
  cases parse <;> rfl

theorem Leaf.value?_of_nil {l : Leaf} {env : Environment} (he : env l.key = some []) :
    l.value? env = if l.parsing.canFail then none else some (.string "") := by
  simp [value?, he, l.parsing.read_nil]

namespace Module.Serves

variable {m : Module} {r : Record Leaf} {env : Environment}

-- Where all variables are set to nothing, invalid is whatever can be.
theorem load_invalid (s : m.Serves r) (he : ∀ l ∈ r.contents, env l.key = some [])
    (h : ∃ l ∈ r.contents, l.parsing.canFail) : ∃ e, m.load env = some (.error e) ∧ e.missing = [] ∧
      e.invalid.map some = (r.contents.filter (·.parsing.canFail)).map (·.invalidSentinel?) := by
  have hn : ∃ l ∈ r.contents, l.value? env = none := by
    obtain ⟨l, hl, hc⟩ := h
    exact ⟨l, hl, by simp [Leaf.value?_of_nil (he l hl), hc]⟩
  have hu : ∀ l ∈ r.contents, ¬l.isUnset env := fun l hl => by simp [Leaf.isUnset, he l hl]
  have hm : ∀ l ∈ r.contents, l.isMalformed env = l.parsing.canFail := by
    intro l hl
    cases hc : l.parsing.canFail <;> simp [Leaf.isMalformed, Leaf.value?_of_nil (he l hl), he l hl, hc]
  have hr := s.reports hn
  refine ⟨_, s.load_eq_error hn, ?_, ?_⟩
  case refine_1 => rw [hr.missing, List.filter_eq_nil_iff.mpr hu, List.map_nil]
  case refine_2 => rw [hr.invalid, List.filter_congr hm]

theorem load_strings (s : m.Serves r) (he : ∀ l ∈ r.contents, env l.key = some [])
    (h : ∀ l ∈ r.contents, l.parsing.canFail = false) :
    m.load env = some (.ok (r.map fun _ => .string "")) := by
  refine s.load_eq_ok.mpr <| Record.ext (by simp only [Record.shape_map]) ?_
  simp only [Record.contents_map, List.map_map]
  exact List.map_congr_left fun l hl => by simp [Leaf.value?_of_nil (he l hl), h l hl]

-- What the enumeration says of its variants: that a leaf's variable is missing, and maybe that it is invalid.
theorem sentinels_eq (s : m.Serves r) :
    ((variantsFor r.contents).map (·.1)).map (m.sentinel? ·.name) =
      (r.contents.flatMap fun l => l.missingSentinel :: l.invalidSentinel?.toList).map some := by
  rw [variantsFor, List.map_flatMap, List.map_flatMap, List.map_flatMap]
  refine List.flatMap_congr fun l hl => ?_
  have hm := s.declares.missing s.distinct hl
  cases hi : l.invalid
  case none =>
    simp [leafVariants, missingVariant, Leaf.names, Leaf.missingSentinel, Leaf.invalidSentinel?, hi, hm]
  case some id =>
    have hs := s.declares.invalid s.distinct hl hi
    simp [leafVariants, missingVariant, invalidVariant, Leaf.names, Leaf.missingSentinel,
      Leaf.invalidSentinel?, hi, hm, hs]

end Module.Serves

-- Everything that is generated speaks of the variables of the leaves, in their order.
structure Generated.Agrees (g : Generated) : Prop where
  scaffold  : contentLines g.scaffold = g.leaves.map (·.key.toList ++ ['='])
  constants : g.module.constants.map (·.key) = g.leaves.map (·.key)
  loader    : ∃ l, g.module.loader? = some l ∧
    l.reads.map (g.module.key? ·.constant) = g.leaves.map (some ·.key)
  sentinels : ∃ ss : List Sentinel, g.module.variants.map (g.module.sentinel? ·.name) = ss.map some ∧
    (ss.filter (·.isMissing)).map (·.key) = g.leaves.map (·.key)
  distinct  : (g.leaves.map (·.key)).Nodup

-- What the loader does where nothing but the scaffold has been given: nothing is missing, and invalid is
-- whatever can be.
structure Generated.LoadsScaffold (g : Generated) (env : Environment) : Prop where
  invalid : (∃ l ∈ g.leaves, l.parsing.canFail) → ∃ e,
    g.module.load (env.source g.scaffold) = some (.error e) ∧ e.missing = [] ∧
    e.invalid.map some = (g.leaves.filter (·.parsing.canFail)).map (·.invalidSentinel?)
  strings : (∀ l ∈ g.leaves, l.parsing.canFail = false) → ∃ v,
    g.module.load (env.source g.scaffold) = some (.ok v) ∧ v.contents = g.leaves.map fun _ => .string ""

section

variable {c : Catalog} {root project title : String} {f : Flattened} {o : ModuleOptions} {m : Module}

theorem Catalog.not_mem_key_of_flatten {l : Leaf} (h : c.flatten root project = .ok f) (hl : l ∈ f.leaves) :
    '\n' ∉ l.key.toList ∧ '=' ∉ l.key.toList := by
  constructor
  case left => exact fun hn => absurd ((nameable_of_flatten h l hl).key _ hn).space (by decide)
  case right =>
    rw [leaf_of_flatten h hl]
    exact Naming.not_mem_variableName (by decide) _ _

theorem Generated.agrees_of_build (hf : c.flatten root project = .ok f) (hu : Uniqueness.check f.leaves = .ok ())
    (hm : Module.build title f o = .ok m) : Agrees ⟨root, m, f.leaves⟩ := by
  have hl := Catalog.nameable_of_flatten hf
  have ⟨hk, hi⟩ := Uniqueness.check_eq_ok.mp hu
  obtain ⟨r, rfl, _, s⟩ := Module.serves_of_build hf hu hm
  refine ⟨?scaffold, ?constants, ?loader, ?sentinels, hk⟩
  case scaffold => exact contentLines_scaffold fun l hl => (Catalog.not_mem_key_of_flatten hf hl).left
  case constants =>
    rw [Module.constants_eq hl hm, List.map_map]
    rfl
  case loader =>
    obtain ⟨l, hl, hr, _⟩ := s.declares.loader
    refine ⟨l, hl, ?_⟩
    rw [hr, List.map_map]
    exact List.map_congr_left fun _ hl => s.declares.key?_eq hl
  case sentinels =>
    refine ⟨_, (Module.variants_eq hl hm).symm ▸ s.sentinels_eq, ?_⟩
    simp only [Flattened.ofRecord, List.filter_flatMap, List.map_flatMap]
    rw [List.map_eq_flatMap]
    refine List.flatMap_congr fun l _ => ?_
    cases hi : l.invalid <;> simp [Leaf.missingSentinel, Leaf.invalidSentinel?, hi]

theorem Generated.loadsScaffold_of_build (hf : c.flatten root project = .ok f)
    (hu : Uniqueness.check f.leaves = .ok ()) (hm : Module.build title f o = .ok m) (env : Environment) :
    LoadsScaffold ⟨root, m, f.leaves⟩ env := by
  have hk : ∀ l ∈ f.leaves, env.source (EnvConfig.scaffold f.leaves) l.key = some [] := fun l hl =>
    Environment.source_scaffold (fun _ hl => (Catalog.not_mem_key_of_flatten hf hl).left)
      (fun _ hl => (Catalog.not_mem_key_of_flatten hf hl).right) hl
  obtain ⟨r, rfl, _, s⟩ := Module.serves_of_build hf hu hm
  constructor
  case invalid => exact s.load_invalid hk
  case strings => exact fun h => ⟨_, s.load_strings hk h, Record.contents_map ..⟩

theorem Generator.agrees_of_generate {g : Generator} {name source : String} {out : Generated}
    (h : g.generate name source = .ok out) : out.Agrees ∧ ∀ env, out.LoadsScaffold env := by
  obtain ⟨s⟩ := generate_eq_ok.mp h
  exact s.result ▸ ⟨Generated.agrees_of_build s.expanded s.unique s.built,
    Generated.loadsScaffold_of_build s.expanded s.unique s.built⟩

theorem Sample.unruly_agrees :
    ∃ out, unruly.generate = .ok out ∧ out.Agrees ∧ ∀ env, out.LoadsScaffold env := by
  obtain ⟨out, h, _⟩ := unruly_generates
  exact ⟨out, h, Generator.agrees_of_generate h⟩

end

end EnvConfig
