import EnvConfig.Proofs.Building
import EnvConfig.Proofs.Layout
import EnvConfig.Proofs.Uniqueness
import Mathlib.Data.List.Perm.Basic

-- Which collision is reported: that of the first leaf that needs what is taken, with the leaf that has taken it.

namespace EnvConfig

-- The first step that fails ends a computation over a list.
theorem foldlM_eq_error {ε α β : Type} {f : β → α → Except ε β} {b : β} {as : List α} {e : ε} :
    as.foldlM f b = .error e ↔
      ∃ before a after c, as = before ++ a :: after ∧ before.foldlM f b = .ok c ∧ f c a = .error e := by
  induction as generalizing b
  case nil => simp [pure, Except.pure]
  case cons a as hi =>
    rw [List.foldlM_cons]
    constructor
    case mp =>
      intro h
      cases ha : f b a
      case error =>
        rw [ha] at h
        cases h
        exact ⟨[], a, as, b, rfl, rfl, ha⟩
      case ok c =>
        rw [ha] at h
        obtain ⟨before, a', after, c', rfl, hb, he⟩ := hi.mp h
        refine ⟨a :: before, a', after, c', rfl, ?_, he⟩
        rw [List.foldlM_cons, ha]
        exact hb
    case mpr =>
      rintro ⟨before, a', after, c', has, hb, he⟩
      cases before
      case nil =>
        cases has
        cases hb
        rw [he]
        rfl
      case cons =>
        cases has
        rw [List.foldlM_cons, bind_eq_ok] at hb
        obtain ⟨c, hc, hb⟩ := hb
        rw [hc]
        exact hi.mpr ⟨_, a', after, c', rfl, hb, he⟩

namespace Uniqueness

-- Variables and identifiers occur once.
@[mk_iff]
structure Distinct (leaves : List Leaf) : Prop where
  keys        : (leaves.map (·.key)).Nodup
  identifiers : (leaves.flatMap (·.identifiers)).Nodup

-- What is reported of a leaf that needs what is taken. Its variable comes first, and then its identifiers one
-- after the other, which can also be taken by the leaf itself.
inductive Reports (before : List Leaf) (l : Leaf) : Problem → Prop
  | key {first} : before.filter (·.key = l.key) = [first] →
    Reports before l (.duplicateKey l.key first.name l.name)
  | identifier {own ident rest first} : l.key ∉ before.map (·.key) → l.identifiers = own ++ ident :: rest →
    (before.flatMap (·.identifiers) ++ own).Nodup → ident ∈ before.flatMap (·.identifiers) ++ own →
    (before ++ [l]).find? (ident ∈ ·.identifiers) = some first →
    Reports before l (.duplicateIdentifier ident first.name l.name)

theorem lookup_eq_some {claimed : List (String × String)} {name leaf : String} (hn : (names claimed).Nodup) :
    claimed.lookup name = some leaf ↔ (name, leaf) ∈ claimed := by
  refine ⟨fun h => ?_, lookup_of_mem hn⟩
  obtain ⟨_, _, rfl, -⟩ := List.lookup_eq_some_iff.mp h
  simp

-- The claims of leaves, the last one first.
def Claims.of (leaves : List Leaf) : Claims where
  keys        := (leaves.map fun l => (l.key, l.name)).reverse
  identifiers := (leaves.flatMap fun l => l.identifiers.map (·, l.name)).reverse

theorem Claims.foldl_add (leaves : List Leaf) : leaves.foldl add ⟨[], []⟩ = of leaves := by
  induction leaves using List.reverseRecOn
  case nil => rfl
  case append_singleton leaves l hi => simp [hi, add, of]

namespace Distinct

variable {before leaves : List Leaf} {l first : Leaf} {own rest : List String} {ident : String}

theorem foldlM_claim_eq_ok {c : Claims} :
    leaves.foldlM claim ⟨[], []⟩ = .ok c ↔ Distinct leaves ∧ c = .of leaves := by
  have a : Claims.Admits ⟨[], []⟩ [] := ⟨.nil, .nil⟩
  rw [Uniqueness.foldlM_claim_eq_ok a, Claims.Admits.start_iff, Claims.foldl_add, distinct_iff]

theorem names_keys (leaves : List Leaf) : names (Claims.of leaves).keys = (leaves.map (·.key)).reverse := by
  simp [names, Claims.of, Function.comp_def]

theorem names_identifiers (leaves : List Leaf) :
    names (Claims.of leaves).identifiers = (leaves.flatMap (·.identifiers)).reverse := by
  simp [names, Claims.of, List.map_flatMap, Function.comp_def]

theorem lookup_key (d : Distinct before) {first : String} : (Claims.of before).keys.lookup l.key = some first ↔
    ∃ m ∈ before, m.key = l.key ∧ m.name = first := by
  rw [lookup_eq_some (by simpa [names_keys] using d.keys)]
  simp [Claims.of]

-- A leaf has its variable for itself.
theorem filter_key (d : Distinct before) (h : first ∈ before) : before.filter (·.key = first.key) = [first] := by
  obtain ⟨front, back, rfl⟩ := List.append_of_mem h
  have hn := d.keys
  simp only [List.map_append, List.map_cons, List.nodup_append, List.nodup_cons, List.mem_map, List.mem_cons] at hn
  obtain ⟨-, ⟨hb, -⟩, hf⟩ := hn
  have hf : front.filter (·.key = first.key) = [] := by
    simp only [List.filter_eq_nil_iff, decide_eq_true_eq]
    exact fun m hm he => hf m.key ⟨m, hm, rfl⟩ first.key (.inl rfl) he
  have hb : back.filter (·.key = first.key) = [] := by
    simp only [List.filter_eq_nil_iff, decide_eq_true_eq]
    exact fun m hm he => hb ⟨m, hm, he⟩
  simp [hf, hb]

theorem nodup_claimed : (own ++ names (Claims.of before).identifiers).Nodup ↔
    (before.flatMap (·.identifiers) ++ own).Nodup := by
  rw [names_identifiers]
  exact ((List.reverse_perm _).append_left own |>.trans List.perm_append_comm).nodup_iff

-- The first leaf that has an identifier is the one that has claimed it.
theorem lookup_owner (hn : (before.flatMap (·.identifiers) ++ own).Nodup)
    (hm : ident ∈ before.flatMap (·.identifiers) ++ own)
    (hf : (before ++ [l]).find? (ident ∈ ·.identifiers) = some first) :
    ((own.map (·, l.name)).reverse ++ (Claims.of before).identifiers).lookup ident = some first.name := by
  have hn : (names ((own.map (·, l.name)).reverse ++ (Claims.of before).identifiers)).Nodup := by
    rw [names_claimed]
    exact ((List.reverse_perm own).append_right _).nodup_iff.mpr (nodup_claimed.mpr hn)
  refine (lookup_eq_some hn).mpr ?_
  rw [List.find?_append] at hf
  cases hb : before.find? (ident ∈ ·.identifiers)
  case some m =>
    obtain rfl : m = first := by simpa [hb] using hf
    have hi : ident ∈ m.identifiers := by simpa using List.find?_some hb
    have hc : (ident, m.name) ∈ (Claims.of before).identifiers := by
      simpa [Claims.of] using ⟨m, List.mem_of_find?_eq_some hb, hi, rfl⟩
    exact List.mem_append_right _ hc
  case none =>
    obtain rfl : l = first := by
      have h : [l].find? (ident ∈ ·.identifiers) = some first := by simpa [hb] using hf
      exact (List.mem_singleton.mp (List.mem_of_find?_eq_some h)).symm
    have hi : ident ∈ own := by
      refine (List.mem_append.mp hm).resolve_left fun h => ?_
      obtain ⟨m, hm, hi⟩ := List.mem_flatMap.mp h
      exact List.find?_eq_none.mp hb m hm (by simpa using hi)
    simp [hi]

end Distinct

def claimIdentifier (leaf : String) (claimed : List (String × String)) (ident : String) :
    Except Problem (List (String × String)) :=
  match claimed.lookup ident with
  | some first => .error (.duplicateIdentifier ident first leaf)
  | none       => .ok ((ident, leaf) :: claimed)

theorem claimIdentifiers_eq {leaf : String} {claimed : List (String × String)} {ids : List String} :
    claimIdentifiers leaf claimed ids = ids.foldlM (claimIdentifier leaf) claimed := by
  induction ids generalizing claimed
  case nil => rfl
  case cons id ids hi =>
    rw [claimIdentifiers, List.foldlM_cons, claimIdentifier]
    cases claimed.lookup id
    case some => rfl
    case none => exact hi

theorem claimIdentifier_eq_error {leaf ident : String} {claimed : List (String × String)} {e : Problem} :
    claimIdentifier leaf claimed ident = .error e ↔
      ∃ first, claimed.lookup ident = some first ∧ e = .duplicateIdentifier ident first leaf := by
  unfold claimIdentifier
  cases claimed.lookup ident <;> simp [eq_comm]

theorem claimIdentifiers_eq_error {leaf : String} {claimed : List (String × String)} {ids : List String}
    {e : Problem} (hc : (names claimed).Nodup) : claimIdentifiers leaf claimed ids = .error e ↔
      ∃ own ident rest first, ids = own ++ ident :: rest ∧ (own ++ names claimed).Nodup ∧
        ((own.map (·, leaf)).reverse ++ claimed).lookup ident = some first ∧
        e = .duplicateIdentifier ident first leaf := by
  simp only [claimIdentifiers_eq, foldlM_eq_error, claimIdentifier_eq_error]
  simp only [← claimIdentifiers_eq, claimIdentifiers_eq_ok hc]
  grind

theorem claim_eq_error {before : List Leaf} {l : Leaf} {e : Problem} (d : Distinct before) :
    claim (.of before) l = .error e ↔ Reports before l e := by
  unfold claim
  cases hl : (Claims.of before).keys.lookup l.key
  case some first =>
    obtain ⟨m, hm, hk, rfl⟩ := d.lookup_key.mp hl
    have hf := hk ▸ d.filter_key hm
    constructor
    case mp => rintro ⟨⟩; exact .key hf
    case mpr =>
      intro r
      cases r
      case key first hf' =>
        obtain rfl : m = first := by simpa using hf.symm.trans hf'
        rfl
      case identifier hn _ _ _ _ => exact absurd (List.mem_map.mpr ⟨m, hm, hk⟩) hn
  case none =>
    have hn : l.key ∉ before.map (·.key) := by simpa [Distinct.names_keys] using lookup_eq_none.mp hl
    have hc : (names (Claims.of before).identifiers).Nodup := by
      simpa [Distinct.names_identifiers] using d.identifiers
    dsimp only
    rw [bind_pure_eq_error, claimIdentifiers_eq_error hc]
    constructor
    case mp =>
      rintro ⟨own, ident, rest, first, hs, ho, hf, rfl⟩
      have ho := Distinct.nodup_claimed.mp ho
      have hm : ident ∈ before.flatMap (·.identifiers) ++ own := by
        have h := mem_names_of_lookup hf
        rw [names_claimed, Distinct.names_identifiers] at h
        simpa [or_comm] using h
      obtain ⟨m, hm'⟩ : ∃ m, (before ++ [l]).find? (ident ∈ ·.identifiers) = some m := by
        refine Option.isSome_iff_exists.mp (List.find?_isSome.mpr ⟨l, by simp, by simp [hs]⟩)
      obtain rfl : m.name = first := Option.some.inj <| (Distinct.lookup_owner ho hm hm').symm.trans hf
      exact .identifier hn hs ho hm hm'
    case mpr =>
      intro r
      cases r
      case key first hf =>
        have hm : first ∈ before.filter (·.key = l.key) := hf ▸ .head _
        have hm : first ∈ before ∧ first.key = l.key := by simpa using hm
        exact absurd (List.mem_map.mpr ⟨first, hm⟩) hn
      case identifier hs ho hm hf =>
        exact ⟨_, _, _, _, hs, Distinct.nodup_claimed.mpr ho, Distinct.lookup_owner ho hm hf, rfl⟩

theorem check_eq_error {leaves : List Leaf} {e : Problem} : check leaves = .error e ↔
    ∃ before l after, leaves = before ++ l :: after ∧ Distinct before ∧ Reports before l e := by
  calc
    _ ↔ leaves.foldlM claim ⟨[], []⟩ = .error e := by
      unfold check
      cases leaves.foldlM claim ⟨[], []⟩ <;> simp [discard, Functor.discard, Functor.mapConst, Except.map]
    _ ↔ _ := by
      simp only [foldlM_eq_error, Distinct.foldlM_claim_eq_ok]
      constructor
      case mp =>
        rintro ⟨before, l, after, _, rfl, ⟨d, rfl⟩, h⟩
        exact ⟨before, l, after, rfl, d, (claim_eq_error d).mp h⟩
      case mpr =>
        rintro ⟨before, l, after, rfl, d, h⟩
        exact ⟨before, l, after, _, rfl, ⟨d, rfl⟩, (claim_eq_error d).mpr h⟩

end Uniqueness

-- The identifiers by which problems with a leaf are reported.
def Leaf.sentinels (l : Leaf) : List String :=
  l.missing :: l.invalid.toList

namespace Naming

variable {project : String} {path : FieldPath}

theorem head?_missingName : (missingName project path).toList.head? = some 'E' := by
  simp [missingName, sentinelBase]

theorem head?_invalidName : (invalidName project path).toList.head? = some 'E' := by
  simp [invalidName, sentinelBase]

end Naming

theorem FieldPath.head?_binding (path : FieldPath) : path.binding.toList.head? = some 'v' := by
  simp [binding]

namespace Catalog

variable {c : Catalog} {root project : String} {f : Flattened} {l : Leaf}

theorem head?_sentinel (h : c.flatten root project = .ok f) (hl : l ∈ f.leaves) :
    ∀ id ∈ l.sentinels, id.toList.head? = some 'E' := by
  rw [leaf_of_flatten h hl]
  simp only [Leaf.sentinels, Leaf.ofPath, List.mem_cons, Option.mem_toList]
  rintro id (rfl | hi)
  case inl => exact Naming.head?_missingName
  case inr =>
    obtain ⟨-, ⟨⟩⟩ := Option.ite_none_right_eq_some.mp hi
    exact Naming.head?_invalidName

-- No identifier that reports a problem is that of a local variable.
theorem binding_not_mem_sentinels (h : c.flatten root project = .ok f) (hl : l ∈ f.leaves) (m : Leaf) :
    m.binding ∉ l.sentinels := by
  intro hm
  have hb : m.binding.toList.head? = some 'v' := m.path.head?_binding
  cases hb.symm.trans (head?_sentinel h hl _ hm)

theorem identifiers_nodup_iff (h : c.flatten root project = .ok f) :
    (f.leaves.flatMap (·.identifiers)).Nodup ↔
      (f.leaves.flatMap (·.sentinels)).Nodup ∧ (f.leaves.map (·.binding)).Nodup := by
  have hp : (f.leaves.flatMap (·.sentinels) ++ f.leaves.map (·.binding)).Perm
      (f.leaves.flatMap (·.identifiers)) := by
    rw [← List.flatMap_singleton' (f.leaves.map _), List.flatMap_map]
    exact List.flatMap_append_perm ..
  have hd : ∀ id ∈ f.leaves.flatMap (·.sentinels), ∀ b ∈ f.leaves.map (·.binding), id ≠ b := by
    intro id hi b hb he
    obtain ⟨l, hl, hi⟩ := List.mem_flatMap.mp hi
    obtain ⟨m, -, rfl⟩ := List.mem_map.mp hb
    exact binding_not_mem_sentinels h hl m (he ▸ hi)
  rw [← hp.nodup_iff, List.nodup_append]
  exact ⟨fun ⟨hs, hb, _⟩ => ⟨hs, hb⟩, fun ⟨hs, hb⟩ => ⟨hs, hb, hd⟩⟩

end Catalog

namespace Uniqueness

theorem check_reports_first :
    (∀ leaves, check leaves = .ok () ↔ Distinct leaves) ∧
    (∀ leaves e, check leaves = .error e ↔
      ∃ before l after, leaves = before ++ l :: after ∧ Distinct before ∧ Reports before l e) ∧
    ∀ (c : Catalog) root project f, c.flatten root project = .ok f →
      ((f.leaves.flatMap (·.identifiers)).Nodup ↔
        (f.leaves.flatMap (·.sentinels)).Nodup ∧ (f.leaves.map (·.binding)).Nodup) :=
  ⟨fun _ => check_eq_ok.trans (distinct_iff _).symm, fun _ _ => check_eq_error,
    fun _ _ _ _ => Catalog.identifiers_nodup_iff⟩

-- A leaf that is put together by hand can be in its own way.
def selfish : Leaf where
  path      := ⟨["a"]⟩
  type      := Catalog.plainType (.plain "bool")
  primitive := .bool
  key       := "APP_A"
  missing   := "val_a"
  invalid   := some "InvalidA"

theorem check_selfish :
    check [selfish] = .error (.duplicateIdentifier "val_a" "a" "a") ∧
    ∃ f, Catalog.clusters.flatten "Cluster" "APP" = .ok f ∧ (f.leaves.flatMap (·.identifiers)).Nodup := by
  constructor
  case left =>
    refine (check_reports_first.right.left [selfish] _).mpr ⟨[], selfish, [], rfl, ⟨.nil, .nil⟩, ?_⟩
    have hs : selfish.identifiers = ["val_a", "InvalidA"] ++ "val_a" :: [] := rfl
    have ho : (([] : List Leaf).flatMap (·.identifiers) ++ ["val_a", "InvalidA"]).Nodup := by decide
    have hm : "val_a" ∈ ([] : List Leaf).flatMap (·.identifiers) ++ ["val_a", "InvalidA"] := .head _
    exact .identifier List.not_mem_nil hs ho hm rfl
  case right =>
    have hn : (Catalog.clusters.flatten "Cluster" "APP").toOption.all fun f =>
        (f.leaves.flatMap (·.sentinels)).Nodup ∧ (f.leaves.map (·.binding)).Nodup := by decide +kernel
    obtain ⟨f, hf⟩ := exists_eq_ok (x := Catalog.clusters.flatten "Cluster" "APP") (by decide +kernel)
    refine ⟨f, hf, (check_reports_first.right.right _ _ _ f hf).mpr ?_⟩
    simpa [hf, Except.toOption] using hn

end Uniqueness
end EnvConfig
