import EnvConfig.Proofs.Building
import EnvConfig.Proofs.Layout
import EnvConfig.Proofs.Uniqueness

-- A module's loader makes a record of the values of all leaves, or reports exactly those leaves that have
-- no value.

namespace EnvConfig

open Source

namespace Leaf

-- What a leaf's variable stands for in an environment, if it is set and valid.
def value? (l : Leaf) (env : Environment) : Option Value := do
  l.parsing.read (Text.Utf8.decodeLossy (← env l.key))

def isUnset (env : Environment) (l : Leaf) : Bool :=
  (env l.key).isNone

def isMalformed (env : Environment) (l : Leaf) : Bool :=
  (env l.key).isSome && (l.value? env).isNone

-- What reports that the variable is not set.
def missingSentinel (l : Leaf) : Sentinel where
  id        := l.missing
  key       := l.key
  isMissing := true

-- What reports that the value is not valid. There is nothing to report if every value is.
def invalidSentinel? (l : Leaf) : Option Sentinel :=
  l.invalid.map (⟨·, l.key, false⟩)

theorem read_eq_string {l : Leaf} {text : List Char} (h : l.parsing.canFail = false) :
    l.parsing.read text = some (.string (String.ofList text)) := by
  have hr : l.parsing.parse = .raw := by simpa [Parsing.canFail] using h
  simp [Parsing.read, hr]

theorem value?_eq_none {l : Leaf} {env : Environment} :
    l.value? env = none ↔ l.isUnset env ∨ l.isMalformed env := by
  unfold isMalformed isUnset
  cases he : env l.key <;> simp [value?, he]

end Leaf

namespace Module

namespace Progress

variable {env : Environment} {done : List Leaf} {l : Leaf}

-- How far a run has come after some leaves.
def after (env : Environment) (done : List Leaf) : Progress where
  values  := done.map fun l => (l.binding, l.value? env)
  missing := (done.filter (·.isUnset env)).map (·.missingSentinel)
  invalid := (done.filter (·.isMalformed env)).filterMap (·.invalidSentinel?)

-- The problems so far.
def problems (p : Progress) : LoadError where
  missing := p.missing
  invalid := p.invalid

theorem after_unset (h : env l.key = none) :
    after env (done ++ [l]) =
      let p := after env done
      { p.bind l.binding none with missing := p.missing ++ [l.missingSentinel] } := by
  simp [after, bind, Leaf.isUnset, Leaf.isMalformed, Leaf.value?, h]

theorem after_malformed {octets : List UInt8} {s : Sentinel} (h : env l.key = some octets)
    (hv : l.value? env = none) (hs : l.invalidSentinel? = some s) :
    after env (done ++ [l]) =
      let p := after env done
      { p.bind l.binding none with invalid := p.invalid ++ [s] } := by
  simp [after, bind, Leaf.isUnset, Leaf.isMalformed, h, hv, hs]

theorem after_valid {octets : List UInt8} {v : Value} (h : env l.key = some octets)
    (hv : l.value? env = some v) :
    after env (done ++ [l]) = (after env done).bind l.binding (some v) := by
  simp [after, bind, Leaf.isUnset, Leaf.isMalformed, h, hv]

end Progress

-- What a run relies on: the module declares everything that it needs for each leaf of a record under a name
-- of its own.
structure Serves (m : Module) (r : Record Leaf) : Prop where
  declares : m.Declares (.ofRecord r)
  distinct : (r.contents.flatMap (·.identifiers)).Nodup
  fallible : ∀ l ∈ r.contents, l.invalid.isSome = l.parsing.canFail

namespace Serves

variable {m : Module} {r : Record Leaf} {l : Leaf} {env : Environment} {done todo : List Leaf}

theorem readVariable_eq (s : m.Serves r) (hl : l ∈ r.contents) :
    m.readVariable env (.after env done) (leafRead l l.names) = some (.after env (done ++ [l])) := by
  have hk : m.key? l.names.constant = some l.key := s.declares.key?_eq hl
  have hm : m.sentinel? l.missing = some l.missingSentinel := s.declares.missing s.distinct hl
  simp only [readVariable, leafRead, hk, Option.bind_eq_bind, Option.bind_some]
  cases he : env l.key
  case none => simp only [Leaf.names, hm, Option.bind_some, Option.pure_def, Progress.after_unset he]
  case some octets =>
    have hv : l.value? env = l.parsing.read (Text.Utf8.decodeLossy octets) := by simp [Leaf.value?, he]
    cases hi : l.invalid
    case none =>
      have hf : l.parsing.canFail = false := by simpa [hi] using s.fallible l hl
      have hr := hv.trans (Leaf.read_eq_string hf)
      simp only [Leaf.names, hi, Option.map_none, Option.pure_def, Progress.after_valid he hr]
    case some id =>
      have hs : m.sentinel? id = some ⟨id, l.key, false⟩ := s.declares.invalid s.distinct hl hi
      simp only [Leaf.names, hi, Option.map_some]
      cases hr : l.parsing.read (Text.Utf8.decodeLossy octets)
      case none =>
        have hi : l.invalidSentinel? = some ⟨id, l.key, false⟩ := by simp [Leaf.invalidSentinel?, hi]
        simp only [hs, Progress.after_malformed he (hv.trans hr) hi, Option.bind_some, Option.pure_def]
      case some v => simp only [Option.pure_def, Progress.after_valid he (hv.trans hr)]

-- After all leaves, every leaf has left its trace, and nothing else has.
theorem foldlM_readVariable_eq (s : m.Serves r) (done : List Leaf) (ht : ∀ l ∈ todo, l ∈ r.contents) :
    (todo.map fun l => leafRead l l.names).foldlM (m.readVariable env) (.after env done) =
      some (.after env (done ++ todo)) := by
  induction todo generalizing done
  case nil => simp
  case cons l todo hi =>
    have ⟨hl, ht⟩ := List.forall_mem_cons.mp ht
    simp [s.readVariable_eq hl, hi _ ht]

-- What each leaf takes from its own identifiers is not taken twice.
theorem flatMap_nodup {g : Leaf → List String} (s : m.Serves r) (hg : ∀ l, (g l).Sublist l.identifiers) :
    (r.contents.flatMap g).Nodup :=
  s.distinct.sublist <| List.Sublist.flatMap_right _ fun l _ => hg l

theorem bindings_nodup (s : m.Serves r) : (r.contents.map (·.binding)).Nodup := by
  rw [List.map_eq_flatMap]
  exact s.flatMap_nodup fun l => by simp [Leaf.identifiers]

-- The literal puts every leaf's local variable where the leaf stands.
theorem literal_eq (r : Record Leaf) :
    (r.numbered.map fun i => (r.contents[i]?.map (·.binding)).getD "") = r.map (·.binding) := by
  refine Record.ext (by simp) ?_
  rw [Record.contents_map, Record.contents_map, Record.contents_numbered]
  refine List.ext_getElem (by simp) fun i hi _ => ?_
  simp only [List.length_map, List.length_range] at hi
  simp [hi]

theorem lookup_values (s : m.Serves r) (hl : l ∈ r.contents) :
    (Progress.after env r.contents).values.lookup l.binding = some (l.value? env) := by
  refine lookup_of_mem ?_ (List.mem_map_of_mem hl)
  simpa [Progress.after, Function.comp_def] using s.bindings_nodup

theorem all_values : (Progress.after env r.contents).values.all (·.2.isSome) =
    (r.traverse? (·.value? env)).isSome := by
  rw [Bool.eq_iff_iff, Record.isSome_traverse?]
  simp [Progress.after]

theorem load_eq (s : m.Serves r) (env : Environment) :
    m.load env = some (match r.traverse? (·.value? env) with
      | some v => .ok v
      | none   => .error (Progress.after env r.contents).problems) := by
  obtain ⟨l, hl, hr, ht⟩ := s.declares.loader
  have hp : l.reads.foldlM (m.readVariable env) .start = some (.after env r.contents) := by
    rw [hr]
    exact s.foldlM_readVariable_eq [] fun _ h => h
  have hv : l.literal.traverse? (fun name => ((Progress.after env r.contents).values.lookup name).bind id) =
      r.traverse? (·.value? env) := by
    have ht : l.literal = r.map (·.binding) := ht.trans (literal_eq r)
    rw [ht, Record.traverse?_map]
    exact Record.traverse?_congr fun l hl => by simp [s.lookup_values hl]
  simp only [load, hl, hp, Option.bind_eq_bind, Option.bind_some, finish, hv, all_values]
  cases r.traverse? (·.value? env) <;> rfl

theorem load_eq_ok {v : Record Value} (s : m.Serves r) :
    m.load env = some (.ok v) ↔ v.map some = r.map (·.value? env) := by
  rw [s.load_eq, ← Record.traverse?_eq_some]
  cases r.traverse? (·.value? env) <;> simp

theorem load_eq_error (s : m.Serves r) (h : ∃ l ∈ r.contents, l.value? env = none) :
    m.load env = some (.error (Progress.after env r.contents).problems) := by
  obtain ⟨l, hl, hn⟩ := h
  rw [s.load_eq]
  cases ht : r.traverse? (·.value? env)
  case none => rfl
  case some =>
    have hs := Record.isSome_traverse?.mp (Option.isSome_of_eq_some ht) l hl
    simp [hn] at hs

theorem eq_problems_of_load {e : LoadError} (s : m.Serves r) (h : m.load env = some (.error e)) :
    e = (Progress.after env r.contents).problems := by
  rw [s.load_eq] at h
  cases ht : r.traverse? (·.value? env) <;> simp_all

end Serves
end Module

-- Nothing is left out where everything has an image.
theorem map_some_filterMap {α β : Type} {f : α → Option β} {l : List α} (h : ∀ a ∈ l, (f a).isSome) :
    (l.filterMap f).map some = l.map f := by
  induction l
  case nil => rfl
  case cons a l hi =>
    have ⟨ha, h⟩ := List.forall_mem_cons.mp h
    obtain ⟨b, hb⟩ := Option.isSome_iff_exists.mp ha
    simp [hb, hi h]

-- The problems with some leaves: one for each that has no value, in the order of the leaves.
structure LoadError.Reports (e : LoadError) (env : Environment) (leaves : List Leaf) : Prop where
  missing   : e.missing = (leaves.filter (·.isUnset env)).map (·.missingSentinel)
  invalid   : e.invalid.map some = (leaves.filter (·.isMalformed env)).map (·.invalidSentinel?)
  nonempty  : e.missing ≠ [] ∨ e.invalid ≠ []
  nodup     : e.errors.Nodup
  isMissing : ∀ s ∈ e.errors, s.isMissing ↔ s ∈ e.missing

namespace Module.Serves

variable {m : Module} {r : Record Leaf} {l : Leaf} {env : Environment}

theorem isSome_invalidSentinel? (s : m.Serves r) (hl : l ∈ r.contents) (h : l.isMalformed env) :
    l.invalidSentinel?.isSome := by
  have hf : l.parsing.canFail := by
    by_contra hf
    simp only [Leaf.isMalformed, Bool.and_eq_true, Option.isSome_iff_exists] at h
    obtain ⟨⟨octets, he⟩, hv⟩ := h
    simp [Leaf.value?, he, Leaf.read_eq_string (Bool.eq_false_iff.mpr hf)] at hv
  simpa [Leaf.invalidSentinel?, hf] using s.fallible l hl

theorem missing_nodup (s : m.Serves r) (env : Environment) :
    (Progress.after env r.contents).problems.missing.Nodup := by
  have h : (r.contents.map (·.missing)).Nodup := by
    rw [List.map_eq_flatMap]
    exact s.flatMap_nodup fun l => by simp [Leaf.identifiers]
  refine .of_map (·.id) ?_
  simpa [Progress.problems, Progress.after, Leaf.missingSentinel, Function.comp_def] using
    h.sublist (List.filter_sublist.map _)

theorem invalid_nodup (s : m.Serves r) (env : Environment) :
    (Progress.after env r.contents).problems.invalid.Nodup := by
  have h : (r.contents.filterMap (·.invalid)).Nodup := by
    rw [List.filterMap_eq_flatMap_toList]
    exact s.flatMap_nodup fun l => by simp [Leaf.identifiers]
  refine .of_map (·.id) ?_
  simpa [Progress.problems, Progress.after, List.map_filterMap, Leaf.invalidSentinel?, Function.comp_def] using
    h.sublist (List.filter_sublist.filterMap _)

theorem isMissing_of_mem_missing {t : Sentinel} (h : t ∈ (Progress.after env r.contents).problems.missing) :
    t.isMissing = true := by
  obtain ⟨l, _, rfl⟩ := List.mem_map.mp h
  rfl

theorem isMissing_of_mem_invalid {t : Sentinel} (h : t ∈ (Progress.after env r.contents).problems.invalid) :
    t.isMissing = false := by
  obtain ⟨l, _, h⟩ := List.mem_filterMap.mp h
  obtain ⟨_, _, rfl⟩ := Option.map_eq_some_iff.mp h
  rfl

theorem reports (s : m.Serves r) (h : ∃ l ∈ r.contents, l.value? env = none) :
    (Progress.after env r.contents).problems.Reports env r.contents := by
  refine ⟨rfl, ?invalid, ?nonempty, ?nodup, ?isMissing⟩
  case invalid =>
    refine map_some_filterMap fun l hl => ?_
    have ⟨hl, hm⟩ := List.mem_filter.mp hl
    exact s.isSome_invalidSentinel? hl hm
  case nonempty =>
    obtain ⟨l, hl, hv⟩ := h
    cases Leaf.value?_eq_none.mp hv
    case inl hu =>
      exact .inl <| List.ne_nil_of_mem <| List.mem_map_of_mem <| List.mem_filter.mpr ⟨hl, hu⟩
    case inr hm =>
      obtain ⟨t, ht⟩ := Option.isSome_iff_exists.mp (s.isSome_invalidSentinel? hl hm)
      exact .inr <| List.ne_nil_of_mem <| List.mem_filterMap.mpr ⟨l, List.mem_filter.mpr ⟨hl, hm⟩, ht⟩
  case nodup =>
    refine List.nodup_append.mpr ⟨s.missing_nodup env, s.invalid_nodup env, ?_⟩
    rintro t ht _ hu rfl
    exact absurd (isMissing_of_mem_missing ht) <| by simp [isMissing_of_mem_invalid hu]
  case isMissing =>
    intro t ht
    cases List.mem_append.mp ht
    case inl ht => exact iff_of_true (isMissing_of_mem_missing ht) ht
    case inr ht =>
      have hf := isMissing_of_mem_invalid ht
      exact iff_of_false (by simp [hf]) fun h => by simp [isMissing_of_mem_missing h] at hf

end Module.Serves

-- What a module's loader does in an environment.
structure Module.LoadsExactly (m : Module) (f : Flattened) (env : Environment) : Prop where
  -- It returns a record if and only if every leaf has a value,
  succeeds_iff : (∃ v, m.load env = some (.ok v)) ↔ ∀ l ∈ f.leaves, (l.value? env).isSome
  -- and that record holds the value of each leaf at the leaf's path.
  value        : ∀ v, m.load env = some (.ok v) → v.shape = f.layout.shape ∧
    v.entries.map (fun (path, x) => (path, some x)) = f.leaves.map fun l => (l.path, l.value? env)
  -- If some leaf has no value, it returns the problems with all such leaves.
  problems     : (∃ l ∈ f.leaves, l.value? env = none) →
    ∃ e, m.load env = some (.error e) ∧ e.Reports env f.leaves
  -- A string has a value wherever its variable is set.
  strings      : ∀ l ∈ f.leaves, l.primitive = .string → (l.value? env).isSome = (env l.key).isSome

section Flattened

variable {c : Catalog} {root project title : String} {f : Flattened} {o : ModuleOptions} {m : Module}

theorem Module.serves_of_build (hf : c.flatten root project = .ok f)
    (hu : Uniqueness.check f.leaves = .ok ()) (hm : build title f o = .ok m) :
    ∃ r, f = .ofRecord r ∧ r.entries = r.contents.map (fun l => (l.path, l)) ∧ m.Serves r := by
  obtain ⟨d, t, _, ht, rfl⟩ := Catalog.flatten_eq_ok.mp hf
  have e := Catalog.Expansion.of_expand ht
  refine ⟨⟨d.ident, t⟩, rfl, e.entries_eq, ?declares, ?distinct, ?fallible⟩
  case declares => exact declares_of_build (fun l hl => e.nameable hl) hm
  case distinct => exact (Uniqueness.check_eq_ok.mp hu).right
  case fallible => exact fun l hl => e.isSome_invalid hl

theorem Module.loadsExactly_of_build (hf : c.flatten root project = .ok f)
    (hu : Uniqueness.check f.leaves = .ok ()) (hm : build title f o = .ok m) (env : Environment) :
    m.LoadsExactly f env := by
  obtain ⟨r, rfl, he, s⟩ := serves_of_build hf hu hm
  refine ⟨?succeeds_iff, ?value, ?problems, ?strings⟩
  case succeeds_iff =>
    calc
      _ ↔ (r.traverse? (·.value? env)).isSome := by
        simp only [s.load_eq_ok, ← Record.traverse?_eq_some, Option.isSome_iff_exists]
      _ ↔ _ := Record.isSome_traverse?
  case value =>
    intro v hv
    have hv := s.load_eq_ok.mp hv
    constructor
    case left => simpa [Flattened.ofRecord] using congrArg (·.shape) hv
    case right =>
      calc
        _ = (v.map some).entries := (Record.entries_map ..).symm
        _ = r.entries.map fun (path, l) => (path, l.value? env) := by rw [hv, Record.entries_map]
        _ = r.contents.map fun l => (l.path, l.value? env) := by simp [he, Function.comp_def]
  case problems =>
    intro h
    refine ⟨_, ?_, s.reports h⟩
    rw [s.load_eq]
    cases ht : r.traverse? (·.value? env)
    case none => rfl
    case some v =>
      obtain ⟨l, hl, hn⟩ := h
      have hs := Record.isSome_traverse?.mp (Option.isSome_of_eq_some ht) l hl
      simp [hn] at hs
  case strings =>
    intro l _ hp
    have hf : l.parsing.canFail = false := by simp [Leaf.parsing, hp]; rfl
    cases he : env l.key <;> simp [Leaf.value?, he, Leaf.read_eq_string hf]

end Flattened

theorem Catalog.cluster_builds :
    ∃ f m, clusters.flatten "Cluster" "APP" = .ok f ∧ Uniqueness.check f.leaves = .ok () ∧
      Module.build "APP" f ⟨none, none⟩ = .ok m := by
  have ⟨m, h⟩ := exists_eq_ok (x := do
    let f ← clusters.flatten "Cluster" "APP"
    Uniqueness.check f.leaves
    Module.build "APP" f ⟨none, none⟩) (by decide +kernel)
  simp only [bind_eq_ok] at h
  obtain ⟨f, hf, _, hu, hm⟩ := h
  exact ⟨f, m, hf, hu, hm⟩

theorem Catalog.leaves_of_cluster {f : Flattened} (hf : clusters.flatten "Cluster" "APP" = .ok f) :
    f.leaves.map (fun l => (l.path, l.key, l.primitive)) = [
      (⟨["level"]⟩, "APP_LEVEL", .i8), (⟨["main", "host"]⟩, "APP_MAIN_HOST", .string),
      (⟨["spare", "host"]⟩, "APP_SPARE_HOST", .string)] := by
  refine Option.some.inj ?_
  calc
    _ = (clusters.flatten "Cluster" "APP").toOption.map (·.leaves.map fun l => (l.path, l.key, l.primitive)) := by
      rw [hf]; rfl
    _ = _ := by decide +kernel

theorem Module.cluster_loadsExactly :
    ∃ f m, Catalog.clusters.flatten "Cluster" "APP" = .ok f ∧ Uniqueness.check f.leaves = .ok () ∧
      build "APP" f ⟨none, none⟩ = .ok m ∧ ∀ env, m.LoadsExactly f env := by
  obtain ⟨f, m, hf, hu, hm⟩ := Catalog.cluster_builds
  exact ⟨f, m, hf, hu, hm, loadsExactly_of_build hf hu hm⟩

end EnvConfig
