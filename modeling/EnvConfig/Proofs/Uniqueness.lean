import EnvConfig.Uniqueness
import EnvConfig.Proofs.Results
import Mathlib.Data.List.Nodup

-- The check passes if and only if all variables are distinct and all identifiers are.

namespace EnvConfig.Uniqueness

-- The names that have been claimed.
def names (claimed : List (String × String)) : List String :=
  claimed.map (·.1)

@[simp]
theorem names_cons (name leaf : String) (claimed : List (String × String)) :
    names ((name, leaf) :: claimed) = name :: names claimed :=
  rfl

@[simp]
theorem names_claimed (ids : List String) (leaf : String) (claimed : List (String × String)) :
    names ((ids.map (·, leaf)).reverse ++ claimed) = ids.reverse ++ names claimed := by
  simp [names, Function.comp_def]

theorem lookup_eq_none {claimed : List (String × String)} {name : String} :
    claimed.lookup name = none ↔ name ∉ names claimed := by
  simp only [List.lookup_eq_none_iff, names, List.mem_map, not_exists, not_and, bne_iff_ne]
  exact forall₂_congr fun _ _ => ne_comm

theorem mem_names_of_lookup {claimed : List (String × String)} {name leaf : String}
    (h : claimed.lookup name = some leaf) : name ∈ names claimed := by
  by_contra hn
  simp [lookup_eq_none.mpr hn] at h

-- What is claimed comes on top of what has been claimed before.
theorem claimIdentifiers_eq_ok {leaf : String} {claimed claimed' : List (String × String)}
    {ids : List String} (hc : (names claimed).Nodup) :
    claimIdentifiers leaf claimed ids = .ok claimed' ↔
      (ids ++ names claimed).Nodup ∧ claimed' = (ids.map (·, leaf)).reverse ++ claimed := by
  induction ids generalizing claimed
  case nil => simp [claimIdentifiers, hc, eq_comm]
  case cons id ids hi =>
    rw [claimIdentifiers]
    split
    case h_1 first hl =>
      have hn := mem_names_of_lookup hl
      simp [hn]
    case h_2 hl =>
      have hn := lookup_eq_none.mp hl
      have hm : (ids ++ id :: names claimed).Nodup ↔ (id :: (ids ++ names claimed)).Nodup :=
        List.perm_middle.nodup_iff
      rw [hi (by simp [hn, hc]), List.cons_append, ← hm]
      simp

namespace Claims

-- The claims with those of one more leaf.
def add (c : Claims) (l : Leaf) : Claims where
  keys        := (l.key, l.name) :: c.keys
  identifiers := (l.identifiers.map (·, l.name)).reverse ++ c.identifiers

-- Nothing that some leaves need is claimed twice, neither among themselves nor before.
structure Admits (c : Claims) (leaves : List Leaf) : Prop where
  keys        : (leaves.map (·.key) ++ names c.keys).Nodup
  identifiers : (leaves.flatMap (·.identifiers) ++ names c.identifiers).Nodup

namespace Admits

variable {c : Claims} {l : Leaf} {leaves : List Leaf}

theorem nil (a : c.Admits leaves) : c.Admits [] where
  keys        := a.keys.sublist (List.sublist_append_right ..)
  identifiers := a.identifiers.sublist (List.sublist_append_right ..)

theorem head (a : c.Admits (l :: leaves)) : c.Admits [l] where
  keys        := a.keys.sublist <| (List.singleton_sublist.mpr (.head _)).append_right _
  identifiers := a.identifiers.sublist <| by simp

theorem singleton_iff :
    c.Admits [l] ↔ (l.key :: names c.keys).Nodup ∧ (l.identifiers ++ names c.identifiers).Nodup := by
  constructor
  case mp => exact fun a => ⟨a.keys, by simpa using a.identifiers⟩
  case mpr => exact fun ⟨hk, hi⟩ => ⟨hk, by simpa using hi⟩

-- It makes no difference whether a leaf has claimed what it needs, or has yet to do so.
theorem add_iff : (c.add l).Admits leaves ↔ c.Admits (l :: leaves) := by
  have hk : (leaves.map (·.key) ++ names (c.add l).keys).Perm ((l :: leaves).map (·.key) ++ names c.keys) :=
    List.perm_middle
  have hi : (leaves.flatMap (·.identifiers) ++ names (c.add l).identifiers).Perm
      ((l :: leaves).flatMap (·.identifiers) ++ names c.identifiers) := by
    simp only [add, names_claimed, List.flatMap_cons, List.append_assoc]
    refine .trans ?_ (List.perm_append_comm_assoc ..)
    exact (l.identifiers.reverse_perm.append_right _).append_left _
  constructor
  case mp => exact fun a => ⟨hk.nodup_iff.mp a.keys, hi.nodup_iff.mp a.identifiers⟩
  case mpr => exact fun a => ⟨hk.nodup_iff.mpr a.keys, hi.nodup_iff.mpr a.identifiers⟩

theorem start_iff : Admits ⟨[], []⟩ leaves ↔
    (leaves.map (·.key)).Nodup ∧ (leaves.flatMap (·.identifiers)).Nodup := by
  constructor
  case mp => exact fun a => ⟨by simpa [names] using a.keys, by simpa [names] using a.identifiers⟩
  case mpr => exact fun ⟨hk, hi⟩ => ⟨by simpa [names] using hk, by simpa [names] using hi⟩

end Admits
end Claims

theorem claim_eq_ok {c c' : Claims} {l : Leaf} (a : c.Admits []) :
    claim c l = .ok c' ↔ c.Admits [l] ∧ c' = c.add l := by
  unfold claim
  split
  case h_1 hl => simp [Claims.Admits.singleton_iff, mem_names_of_lookup hl]
  case h_2 hl =>
    have hk := lookup_eq_none.mp hl
    simp only [bind_eq_ok, pure_eq_ok, claimIdentifiers_eq_ok a.identifiers]
    have hn : (names c.keys).Nodup := a.keys
    simp [Claims.Admits.singleton_iff, Claims.add, hk, hn, eq_comm (b := c')]

theorem foldlM_claim_eq_ok {leaves : List Leaf} {c c' : Claims} (a : c.Admits []) :
    leaves.foldlM claim c = .ok c' ↔ c.Admits leaves ∧ c' = leaves.foldl Claims.add c := by
  induction leaves generalizing c
  case nil => simp [pure_eq_ok, a, eq_comm (b := c')]
  case cons l leaves hi =>
    simp only [List.foldlM_cons, bind_eq_ok, claim_eq_ok a]
    constructor
    case mp =>
      rintro ⟨_, ⟨hl, rfl⟩, h⟩
      obtain ⟨hr, rfl⟩ := (hi (Claims.Admits.add_iff.mpr hl)).mp h
      exact ⟨Claims.Admits.add_iff.mp hr, rfl⟩
    case mpr =>
      rintro ⟨h, rfl⟩
      have ht := Claims.Admits.add_iff.mpr h
      exact ⟨_, ⟨h.head, rfl⟩, (hi ht.nil).mpr ⟨ht, rfl⟩⟩

theorem check_eq_ok {leaves : List Leaf} :
    check leaves = .ok () ↔ (leaves.map (·.key)).Nodup ∧ (leaves.flatMap (·.identifiers)).Nodup := by
  have a : Claims.Admits ⟨[], []⟩ [] := ⟨.nil, .nil⟩
  calc
    _ ↔ ∃ c, leaves.foldlM claim ⟨[], []⟩ = .ok c := by
      unfold check
      cases leaves.foldlM claim ⟨[], []⟩ <;> simp [discard, Functor.discard, Functor.mapConst, Except.map]
    _ ↔ Claims.Admits ⟨[], []⟩ leaves := by simp [foldlM_claim_eq_ok a]
    _ ↔ _ := Claims.Admits.start_iff

end EnvConfig.Uniqueness
