import EnvConfig.Proofs.Keys
import EnvConfig.Proofs.Replacement

-- What a loader says when it fails. No variable has a blank or a comma in its name, so that the lists of problems
-- can be read off the message, and no two problems are about one variable.

namespace EnvConfig

namespace LoadError

variable {e e' : LoadError} {ss ss' : List Sentinel}

-- The variables that some problems are about can be told apart in a list of them, and in a message.
def HasPlainKeys (ss : List Sentinel) : Prop :=
  ∀ s ∈ ss, ',' ∉ s.key.toList ∧ ' ' ∉ s.key.toList

theorem toList_listed (ss : List Sentinel) : (listed ss).toList = [','].intercalate (ss.map (·.key.toList)) := by
  simp [listed, String.toList_intercalate, Function.comp_def]

theorem HasPlainKeys.blank_notMem (h : HasPlainKeys ss) : ' ' ∉ (listed ss).toList := by
  rw [toList_listed]
  intro hb
  obtain hb | ⟨w, hw, hb⟩ := mem_intercalate_singleton hb
  case inl => cases hb
  case inr =>
    obtain ⟨s, hs, rfl⟩ := List.mem_map.mp hw
    exact (h s hs).right hb

-- Both or none of two lists of problems are mentioned, and that in the same words.
def SameListed (ss ss' : List Sentinel) : Prop :=
  (ss = [] ↔ ss' = []) ∧ (ss ≠ [] → listed ss = listed ss')

theorem SameListed.keys_eq (h : SameListed ss ss') (hp : HasPlainKeys ss) (hp' : HasPlainKeys ss') :
    ss.map (·.key) = ss'.map (·.key) := by
  obtain ⟨hn, hl⟩ := h
  by_cases hs : ss = []
  case pos => rw [hs, hn.mp hs]
  case neg =>
    have hk {ss : List Sentinel} (hp : HasPlainKeys ss) : ∀ key ∈ ss.map (·.key), ',' ∉ key.toList :=
      List.forall_mem_map.mpr fun s hs => (hp s hs).left
    exact eq_of_intercalate_eq rfl (hk hp) (hk hp') (by simpa using hs) (by simpa using mt hn.mpr hs) (hl hs)

-- The words of a message, between its blanks.
def words (e : LoadError) : List String :=
  (if e.missing = [] then []
    else ["envs", listed e.missing, "are", "not", if e.invalid = [] then "set" else "set;"]) ++
  if e.invalid = [] then [] else ["envs", listed e.invalid, "have", "an", "invalid", "value"]

theorem message_eq (e : LoadError) : e.message = " ".intercalate e.words := by
  rw [← String.toList_inj]
  cases hm : e.missing <;> cases hi : e.invalid <;> simp [message, words, hm, hi]

-- The words behind a list say which one it is.
theorem sameListed_of_words_eq (h : e.words = e'.words) :
    SameListed e.missing e'.missing ∧ SameListed e.invalid e'.invalid := by
  unfold SameListed
  by_cases hm : e.missing = [] <;> by_cases hi : e.invalid = [] <;>
    by_cases hm' : e'.missing = [] <;> by_cases hi' : e'.invalid = [] <;>
    simp_all [words]

-- An error that a loader can return, as far as its message is concerned.
structure IsPlain (e : LoadError) : Prop where
  missing  : HasPlainKeys e.missing
  invalid  : HasPlainKeys e.invalid
  nonempty : e.missing ≠ [] ∨ e.invalid ≠ []

namespace IsPlain

theorem blank_notMem_words (h : e.IsPlain) : ∀ w ∈ e.words, ' ' ∉ w.toList := by
  have hf : ["envs", "are", "not", "set", "set;", "have", "an", "invalid", "value"].all (!·.toList.contains ' ') := by
    decide
  intro w hw
  by_cases hl : w = listed e.missing ∨ w = listed e.invalid
  case pos =>
    cases hl
    case inl hl => exact hl ▸ h.missing.blank_notMem
    case inr hl => exact hl ▸ h.invalid.blank_notMem
  case neg =>
    obtain ⟨hm, hi⟩ := not_or.mp hl
    simpa using List.all_eq_true.mp hf w (by grind [words])

theorem words_ne_nil (h : e.IsPlain) : e.words ≠ [] := by
  cases h.nonempty
  case inl h => simp [words, h]
  case inr h => simp [words, h]

-- A message says which variables are in which list.
theorem keys_eq_of_message_eq (h : e.IsPlain) (h' : e'.IsPlain) (he : e.message = e'.message) :
    e.missing.map (·.key) = e'.missing.map (·.key) ∧ e.invalid.map (·.key) = e'.invalid.map (·.key) := by
  rw [message_eq, message_eq] at he
  have hw : e.words = e'.words :=
    eq_of_intercalate_eq rfl h.blank_notMem_words h'.blank_notMem_words h.words_ne_nil h'.words_ne_nil he
  obtain ⟨hm, hi⟩ := sameListed_of_words_eq hw
  exact ⟨hm.keys_eq h.missing h'.missing, hi.keys_eq h.invalid h'.invalid⟩

end IsPlain
end LoadError

-- What is chosen from a list is known by names that no two of the list share.
theorem filter_eq_of_map_eq {α β : Type} {f : α → β} {as : List α} {p q : α → Bool} (hn : (as.map f).Nodup)
    (h : (as.filter p).map f = (as.filter q).map f) : as.filter p = as.filter q := by
  refine List.filter_congr fun a ha => ?_
  have hm (p : α → Bool) : p a ↔ f a ∈ (as.filter p).map f := by
    constructor
    case mp => exact fun hp => List.mem_map_of_mem (List.mem_filter.mpr ⟨ha, hp⟩)
    case mpr =>
      intro hf
      obtain ⟨b, hb, he⟩ := List.mem_map.mp hf
      obtain ⟨hb, hp⟩ := List.mem_filter.mp hb
      exact List.inj_on_of_nodup_map hn hb ha he ▸ hp
  rw [Bool.eq_iff_iff, hm, hm, h]

-- All problems of a run: those with the variables that are not set, then those with the variables that have no valid
-- value, and none of them is about a variable that another one is about.
structure LoadError.ListsOnce (e : LoadError) (env : Environment) (leaves : List Leaf) : Prop where
  order  : e.errors = e.missing ++ e.invalid
  errors : e.errors.map some = (leaves.filter (·.isUnset env)).map (some ·.missingSentinel) ++
    (leaves.filter (·.isMalformed env)).map (·.invalidSentinel?)
  keys   : e.errors.map (·.key) = (leaves.filter (·.isUnset env) ++ leaves.filter (·.isMalformed env)).map (·.key)
  once   : (e.errors.map (·.key)).Nodup

theorem Leaf.not_isMalformed_of_isUnset {env : Environment} {l : Leaf} (h : l.isUnset env) : ¬l.isMalformed env := by
  have hn : env l.key = none := Option.isNone_iff_eq_none.mp h
  simp [isMalformed, hn]

namespace Module.Serves

variable {m : Module} {r : Record Leaf} {env env' : Environment} {e e' : LoadError}

theorem map_key_missing (r : Record Leaf) (env : Environment) :
    (Progress.after env r.contents).problems.missing.map (·.key) =
      (r.contents.filter (·.isUnset env)).map (·.key) := by
  simp [Progress.problems, Progress.after, Leaf.missingSentinel, Function.comp_def]

theorem map_key_invalid (s : m.Serves r) (env : Environment) :
    (Progress.after env r.contents).problems.invalid.map (·.key) =
      (r.contents.filter (·.isMalformed env)).map (·.key) := by
  have hk : ∀ l ∈ r.contents.filter (·.isMalformed env), l.invalidSentinel?.map (·.key) = some l.key := by
    intro l hl
    obtain ⟨hl, hm⟩ := List.mem_filter.mp hl
    obtain ⟨t, ht⟩ := Option.isSome_iff_exists.mp (s.isSome_invalidSentinel? hl hm)
    obtain ⟨id, -, rfl⟩ := Option.map_eq_some_iff.mp ht
    rw [ht, Option.map_some]
  calc
    _ = (r.contents.filter (·.isMalformed env)).filterMap (·.invalidSentinel?.map (·.key)) := List.map_filterMap
    _ = (r.contents.filter (·.isMalformed env)).filterMap (some ·.key) := List.filterMap_congr hk
    _ = _ := congrFun List.filterMap_eq_map _

theorem exists_valueless (s : m.Serves r) (h : m.load env = some (.error e)) :
    ∃ l ∈ r.contents, l.value? env = none := by
  by_contra hn
  have ht : (r.traverse? (·.value? env)).isSome := Record.isSome_traverse?.mpr fun l hl =>
    Option.isSome_iff_ne_none.mpr fun hv => hn ⟨l, hl, hv⟩
  obtain ⟨v, hv⟩ := Option.isSome_iff_exists.mp ht
  rw [s.load_eq, hv] at h
  cases h

theorem isPlain (s : m.Serves r) (hk : LoadError.HasPlainKeys (r.contents.map (·.missingSentinel)))
    (h : m.load env = some (.error e)) : e.IsPlain := by
  obtain rfl := s.eq_problems_of_load h
  have hk {l : Leaf} (hl : l ∈ r.contents) := hk _ (List.mem_map_of_mem hl)
  refine ⟨?missing, ?invalid, (s.reports (s.exists_valueless h)).nonempty⟩
  case missing =>
    intro t ht
    obtain ⟨l, hl, rfl⟩ := List.mem_map.mp ht
    exact hk (List.mem_filter.mp hl).left
  case invalid =>
    intro t ht
    obtain ⟨l, hl, ht⟩ := List.mem_filterMap.mp ht
    obtain ⟨id, -, rfl⟩ := Option.map_eq_some_iff.mp ht
    exact hk (List.mem_filter.mp hl).left

theorem message_eq_iff (s : m.Serves r) (hn : (r.contents.map (·.key)).Nodup)
    (hk : LoadError.HasPlainKeys (r.contents.map (·.missingSentinel)))
    (h : m.load env = some (.error e)) (h' : m.load env' = some (.error e')) :
    e.message = e'.message ↔ e = e' := by
  constructor
  case mp =>
    intro he
    obtain ⟨hm, hi⟩ := (s.isPlain hk h).keys_eq_of_message_eq (s.isPlain hk h') he
    obtain rfl := s.eq_problems_of_load h
    obtain rfl := s.eq_problems_of_load h'
    rw [map_key_missing, map_key_missing] at hm
    rw [s.map_key_invalid, s.map_key_invalid] at hi
    simp only [Progress.problems, Progress.after, filter_eq_of_map_eq hn hm, filter_eq_of_map_eq hn hi]
  case mpr => exact fun he => congrArg _ he

theorem listsOnce (s : m.Serves r) (hn : (r.contents.map (·.key)).Nodup) (h : m.load env = some (.error e)) :
    e.ListsOnce env r.contents := by
  have hr := s.reports (s.exists_valueless h)
  obtain rfl := s.eq_problems_of_load h
  have hk : (Progress.after env r.contents).problems.errors.map (·.key) =
      (r.contents.filter (·.isUnset env) ++ r.contents.filter (·.isMalformed env)).map (·.key) := by
    rw [LoadError.errors, List.map_append, List.map_append, map_key_missing, s.map_key_invalid]
  refine ⟨rfl, ?errors, hk, ?once⟩
  case errors =>
    rw [LoadError.errors, List.map_append, hr.invalid, hr.missing, List.map_map]
    rfl
  case once =>
    rw [hk, List.map_append]
    have hs (p : Leaf → Bool) : ((r.contents.filter p).map (·.key)).Nodup := hn.sublist (List.filter_sublist.map _)
    refine List.nodup_append.mpr ⟨hs _, hs _, ?_⟩
    rintro _ ht _ ht' rfl
    obtain ⟨l, hl, rfl⟩ := List.mem_map.mp ht
    obtain ⟨l', hl', he⟩ := List.mem_map.mp ht'
    obtain ⟨hl, hu⟩ := List.mem_filter.mp hl
    obtain ⟨hl', hm⟩ := List.mem_filter.mp hl'
    obtain rfl := List.inj_on_of_nodup_map hn hl' hl he
    exact Leaf.not_isMalformed_of_isUnset hu hm

end Module.Serves

section Flattened

variable {c : Catalog} {root project title : String} {f : Flattened} {o : ModuleOptions} {m : Module}

-- No prefix and no name of a field gets a comma or a blank into the name of a variable.
theorem Catalog.hasPlainKeys_of_flatten (h : c.flatten root project = .ok f) :
    LoadError.HasPlainKeys (f.leaves.map (·.missingSentinel)) := by
  intro s hs
  obtain ⟨l, hl, rfl⟩ := List.mem_map.mp hs
  have hk : l.missingSentinel.key = Naming.variableName project l.path :=
    congrArg Leaf.key (leaf_of_flatten h hl)
  rw [hk]
  exact ⟨Naming.not_mem_variableName (by decide) _ _, Naming.not_mem_variableName (by decide) _ _⟩

theorem Module.message_distinguishes (hf : c.flatten root project = .ok f)
    (hu : Uniqueness.check f.leaves = .ok ()) (hm : build title f o = .ok m) {env env' : Environment}
    {e e' : LoadError} (he : m.load env = some (.error e)) (he' : m.load env' = some (.error e')) :
    (e.message = e'.message ↔ e = e') ∧ e.ListsOnce env f.leaves := by
  have hk := Catalog.hasPlainKeys_of_flatten hf
  have hn := (Uniqueness.check_eq_ok.mp hu).left
  obtain ⟨r, rfl, -, s⟩ := serves_of_build hf hu hm
  exact ⟨s.message_eq_iff hn hk he he', s.listsOnce hn he⟩

end Flattened

-- Nothing is set, or one variable is set to an empty text, which is no number.
theorem Module.message_distinguishes_cluster :
    let env : Environment := fun _ => none
    let env' : Environment := fun key => if key = "APP_LEVEL" then some [] else none
    ∃ f m e e', Catalog.clusters.flatten "Cluster" "APP" = .ok f ∧ Uniqueness.check f.leaves = .ok () ∧
      build "APP" f ⟨none, none⟩ = .ok m ∧ m.load env = some (.error e) ∧ m.load env' = some (.error e') ∧
      (∃ s ∈ e.missing, s.key = "APP_LEVEL") ∧ (∃ s ∈ e'.invalid, s.key = "APP_LEVEL") ∧
      (e.message = e'.message ↔ e = e') ∧ e.ListsOnce env f.leaves := by
  intro env env'
  obtain ⟨f, m, hf, hu, hm⟩ := Catalog.cluster_builds
  obtain ⟨level, hl, hi⟩ := List.mem_map.mp <| Catalog.leaves_of_cluster hf ▸ List.Mem.head _
  obtain ⟨-, hk, hp⟩ := by simpa only [Prod.mk.injEq] using hi
  obtain ⟨r, rfl, -, s⟩ := serves_of_build hf hu hm
  have he : m.load env = some (.error (Progress.after env r.contents).problems) := s.load_eq_error ⟨level, hl, rfl⟩
  have hs : env' level.key = some [] := if_pos hk
  have hn : level.parsing.read (Text.Utf8.decodeLossy []) = none := by
    rw [Leaf.parsing, hp, Text.Utf8.decodeLossy_nil]
    decide
  obtain ⟨e', id, he', -, hi, -⟩ := s.refuses hl hs hn
  refine ⟨_, m, _, e', hf, hu, hm, he, he', ⟨level.missingSentinel, ?_, hk⟩, ⟨_, hi, hk⟩,
    message_distinguishes hf hu hm he he'⟩
  exact List.mem_map_of_mem (List.mem_filter.mpr ⟨hl, rfl⟩)

end EnvConfig
