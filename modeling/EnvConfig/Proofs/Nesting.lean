import EnvConfig.Proofs.Expansion
import Mathlib.Data.List.Nodup
import Mathlib.Data.List.Perm.Subperm
import Mathlib.Logic.Relation

-- Which records can be flattened: those from which no record is reached that is inside itself, and only
-- fields of known types.

namespace EnvConfig

open Source Relation

namespace Catalog

-- A field of the record `r` is the record `s`.
def Nests (c : Catalog) (r s : RecordDecl) : Prop :=
  ∃ slot ∈ r.slots, c.record? slot.2 = some s

-- The fields that are no records have primitive types.
def Supports (c : Catalog) (r : RecordDecl) : Prop :=
  ∀ slot ∈ r.slots, c.record? slot.2 = none → (Primitive.ofType? slot.2).isSome

-- Nothing stands in the way of what is inside a record, at any depth.
def Grounded (c : Catalog) (r : RecordDecl) : Prop :=
  ∀ s, ReflTransGen c.Nests r s → ¬TransGen c.Nests s s ∧ c.Supports s

variable {c : Catalog} {project : String}

theorem Grounded.nested {r s : RecordDecl} (w : c.Grounded r) (h : c.Nests r s) :
    c.Grounded s :=
  fun _ hu => w _ (.head h hu)

-- What has been done at a field that does not stop the expansion: its record has been entered, or it has become
-- a leaf.
def Replaced (c : Catalog) {visiting : List String}
    (enter : (r : RecordDecl) → r.name ∈ c.names → r.name ∉ visiting → FieldPath →
      Except Problem (Fields Leaf))
    (path : FieldPath) (slot : Ident × TypeExpr) : Prop :=
  (∃ s hn hv inner, c.record? slot.2 = some s ∧ enter s hn hv (path.child slot.1.name) = .ok inner) ∨
    (c.record? slot.2 = none ∧ (Primitive.ofType? slot.2).isSome)

section Slots

variable {visiting : List String} {path : FieldPath} {slots : List (Ident × TypeExpr)} {t : Fields Leaf}
  {enter : (r : RecordDecl) → r.name ∈ c.names → r.name ∉ visiting → FieldPath →
    Except Problem (Fields Leaf)}

theorem slot_of_expandSlots (h : c.expandSlots project visiting enter path slots = .ok t)
    {slot : Ident × TypeExpr} (hs : slot ∈ slots) : c.Replaced enter path slot := by
  induction slots generalizing t
  case nil => cases hs
  case cons _ _ hi =>
    obtain ⟨rest, hr, ho⟩ := expandSlots_cons_eq_ok h
    cases hs
    case tail hs => exact hi hr hs
    case head =>
      obtain ⟨s, hn, hv, inner, hs, he, -⟩ | ⟨p, hs, hp, -⟩ := ho
      case inl => exact .inl ⟨s, hn, hv, inner, hs, he⟩
      case inr => exact .inr ⟨hs, by simp [hp]⟩

theorem expandSlots_succeeds
    (hr : ∀ slot ∈ slots, ∀ s, c.record? slot.2 = some s →
      s.name ∉ visiting ∧ ∀ hn hv child, ∃ inner, enter s hn hv child = .ok inner)
    (hp : ∀ slot ∈ slots, c.record? slot.2 = none → (Primitive.ofType? slot.2).isSome) :
    ∃ t, c.expandSlots project visiting enter path slots = .ok t := by
  induction slots
  case nil => exact ⟨_, rfl⟩
  case cons slot slots hi =>
    obtain ⟨rest, hs⟩ := hi (fun s hs => hr s (.tail _ hs)) (fun s hs => hp s (.tail _ hs))
    rw [expandSlots]
    split
    case h_1 r hr' =>
      obtain ⟨hv, he⟩ := hr slot (.head _) r hr'
      obtain ⟨inner, he⟩ := he (name_mem_names_of_record? hr') hv (path.child slot.1.name)
      exact ⟨.record slot.1 r.ident inner rest, by simp [hv, he, hs, bind, Except.bind, pure, Except.pure]⟩
    case h_2 hr' =>
      obtain ⟨p, hp⟩ := Option.isSome_iff_exists.mp (hp slot (.head _) hr')
      exact ⟨_, by simp [hp, hs, bind, Except.bind]; rfl⟩

-- A leaf is a field of the record itself or of one that has been entered a step further down.
theorem leaf_of_expandSlots (h : c.expandSlots project visiting enter path slots = .ok t) {l : Leaf}
    (hl : l ∈ t.contents) :
    l.path.segments.length = path.segments.length + 1 ∨
      ∃ s hn hv child inner, child.segments.length = path.segments.length + 1 ∧
        enter s hn hv child = .ok inner ∧ l ∈ inner.contents := by
  induction slots generalizing t
  case nil => cases h; cases hl
  case cons _ _ hi =>
    obtain ⟨rest, hr, ⟨s, hn, hv, inner, -, he, rfl⟩ | ⟨p, -, -, rfl⟩⟩ := expandSlots_cons_eq_ok h
    case inl =>
      cases List.mem_append.mp hl
      case inl hl => exact .inr ⟨s, hn, hv, _, inner, by simp, he, hl⟩
      case inr hl => exact hi hr hl
    case inr =>
      cases hl
      case head => exact .inl (by simp [Leaf.ofPath])
      case tail hl => exact hi hr hl

end Slots

-- If a record has been expanded, no record on the way to it is inside it. As the record itself is one of
-- them, it is not inside itself, and the same is true of all that has been entered from it.
theorem grounded_of_expand {visiting : List String} {path : FieldPath} {r : RecordDecl}
    {t : Fields Leaf} (hm : r.name ∈ visiting) (h : c.expand project visiting path r = .ok t) :
    (∀ s, TransGen c.Nests r s → s.name ∉ visiting) ∧ c.Grounded r := by
  induction visiting, path, r using expand.induct c generalizing t
  case case1 visiting path r hi =>
    rw [expand] at h
    have nested {s} (hs : c.Nests r s) : s.name ∉ visiting ∧
        (∀ u, TransGen c.Nests s u → u.name ∉ visiting ++ [s.name]) ∧ c.Grounded s := by
      obtain ⟨slot, hs, hr⟩ := hs
      obtain ⟨_, hn, hv, inner, hr', he⟩ | ⟨hr', -⟩ := slot_of_expandSlots h hs
      case inl =>
        cases hr.symm.trans hr'
        exact ⟨hv, hi s hn hv _ (by simp) he⟩
      case inr => cases hr.symm.trans hr'
    have outside {s} (hs : TransGen c.Nests r s) : s.name ∉ visiting := by
      obtain ⟨u, hu, hs⟩ := TransGen.head'_iff.mp hs
      obtain ⟨hv, ho, _⟩ := nested hu
      cases reflTransGen_iff_eq_or_transGen.mp hs
      case inl he => exact he ▸ hv
      case inr hs => exact fun hm => ho s hs (List.mem_append_left _ hm)
    refine ⟨fun _ => outside, ?_⟩
    intro s hs
    cases ReflTransGen.cases_head hs
    case inr hs =>
      obtain ⟨u, hu, hs⟩ := hs
      exact (nested hu).right.right s hs
    case inl he =>
      subst he
      refine ⟨fun hc => outside hc hm, ?_⟩
      intro slot hs hr
      obtain ⟨_, _, _, _, hr', _⟩ | ⟨-, hp⟩ := slot_of_expandSlots h hs
      case inl => cases hr.symm.trans hr'
      case inr => exact hp

-- A record that is visited twice on the same way would be inside itself.
theorem expand_succeeds {visiting : List String} {path : FieldPath} {r : RecordDecl}
    (hv : ∀ v ∈ visiting, ∃ u, c.get? v = some u ∧ ReflTransGen c.Nests u r) (hw : c.Grounded r) :
    ∃ t, c.expand project visiting path r = .ok t := by
  induction visiting, path, r using expand.induct c
  case case1 visiting path r hi =>
    rw [expand]
    refine expandSlots_succeeds ?_ (hw r .refl).right
    intro slot hs s hr
    have hn : c.Nests r s := ⟨slot, hs, hr⟩
    have hg : c.get? s.name = some s := get?_name_of_record? hr
    refine ⟨?_, ?_⟩
    case refine_1 =>
      intro hm
      obtain ⟨u, hu, hr⟩ := hv _ hm
      cases hg.symm.trans hu
      exact (hw s (.single hn)).left (.tail' hr hn)
    case refine_2 =>
      intro hm hm' child
      refine hi s hm hm' child ?_ (hw.nested hn)
      intro v hv'
      cases List.mem_append.mp hv'
      case inl hv' =>
        obtain ⟨u, hu, hr⟩ := hv v hv'
        exact ⟨u, hu, hr.tail hn⟩
      case inr hv' =>
        cases List.mem_singleton.mp hv'
        exact ⟨s, hg, .refl⟩

-- The names on the way to a record are names of the catalog, none of them twice.
theorem length_le_size {visiting : List String} (hn : visiting.Nodup) (hk : visiting ⊆ c.names) :
    visiting.length ≤ c.size := by
  have h := (List.subperm_of_subset hn hk).length_le
  simpa [names, size] using h

theorem length_segments_le_of_expand {visiting : List String} {path : FieldPath} {r : RecordDecl}
    {t : Fields Leaf} {l : Leaf} (hn : visiting.Nodup) (hk : visiting ⊆ c.names)
    (hp : visiting.length = path.segments.length + 1)
    (h : c.expand project visiting path r = .ok t) (hl : l ∈ t.contents) :
    l.path.segments.length ≤ c.size := by
  induction visiting, path, r using expand.induct c generalizing t
  case case1 visiting path r hi =>
    rw [expand] at h
    obtain hl | ⟨s, hs, hv, child, inner, hc, he, hl⟩ := leaf_of_expandSlots h hl
    case inl => exact hl ▸ hp ▸ length_le_size hn hk
    case inr =>
      refine hi s hs hv child ?_ ?_ (by simp [hp, hc]) he hl
      case refine_1 => exact List.concat_eq_append ▸ hn.concat hv
      case refine_2 => exact List.append_subset.mpr ⟨hk, by simpa using hs⟩

-- A record can be flattened if and only if everything inside it is in order. A leaf is then no further down
-- than there are records, as the way to it enters each at most once.
theorem flatten_succeeds_iff_grounded (c : Catalog) (root project : String) :
    ((∃ f, c.flatten root project = .ok f) ↔
      ∃ r, c.get? root = some r ∧ ∀ s, ReflTransGen c.Nests r s →
        ¬TransGen c.Nests s s ∧
        ∀ slot ∈ s.slots, c.record? slot.2 = none → ∃ p, Primitive.ofType? slot.2 = some p) ∧
    ∀ f, c.flatten root project = .ok f →
      ∀ l ∈ f.leaves, 1 ≤ l.path.segments.length ∧ l.path.segments.length ≤ c.size := by
  simp only [← Option.isSome_iff_exists]
  refine ⟨⟨?mp, ?mpr⟩, ?depth⟩
  case mp =>
    intro ⟨f, h⟩
    obtain ⟨r, t, hr, ht, rfl⟩ := flatten_eq_ok.mp h
    exact ⟨r, hr, (grounded_of_expand (by simp [name_of_get? hr]) ht).right⟩
  case mpr =>
    intro ⟨r, hr, hw⟩
    have hv : ∀ v ∈ [root], ∃ u, c.get? v = some u ∧ ReflTransGen c.Nests u r := by
      simp [hr, ReflTransGen.refl]
    have ⟨t, ht⟩ : ∃ t, c.expand project [root] .root r = .ok t := expand_succeeds hv hw
    exact ⟨_, flatten_eq_ok.mpr ⟨r, t, hr, ht, rfl⟩⟩
  case depth =>
    intro f h l hl
    obtain ⟨r, t, hr, ht, rfl⟩ := flatten_eq_ok.mp h
    have ⟨names, hn, hs⟩ := (Expansion.of_expand ht).segments_eq hl
    have hk : [root] ⊆ c.names := by simpa [name_of_get? hr] using name_mem_names (mem_of_get? hr)
    refine ⟨?_, length_segments_le_of_expand (List.nodup_singleton _) hk rfl ht hl⟩
    simpa [hs, FieldPath.root, Nat.one_le_iff_ne_zero] using hn

end Catalog
end EnvConfig
