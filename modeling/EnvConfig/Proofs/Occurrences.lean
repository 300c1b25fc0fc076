import EnvConfig.Proofs.Layout
import EnvConfig.Proofs.Nesting

-- The fields that are met on the way down from a record, and what becomes of one that is a record itself: its
-- leaves are those of the record alone, with the path of the field in front, wherever it is met.

namespace EnvConfig

open Source Relation

namespace FieldPath

def append (p q : FieldPath) : FieldPath where
  segments := p.segments ++ q.segments

@[simp]
theorem append_root (p : FieldPath) : p.append .root = p := by
  simp [append]

@[simp]
theorem append_child (p q : FieldPath) (name : String) : p.append (q.child name) = (p.append q).child name := by
  simp [append, child]

end FieldPath

-- The leaf as it is in a record in which the leaf's own record stands at the given path. It keeps its type, and
-- takes its names from where it is.
def Leaf.under (project : String) (path : FieldPath) (l : Leaf) : Leaf :=
  .ofPath project (path.append l.path) l.type l.primitive

namespace Catalog

-- A field as it is met on the way down from a record: its path, the names of the records that it is in, the
-- outermost first, and its type.
structure Occurrence where
  path   : FieldPath
  within : List String
  type   : TypeExpr

-- Where a field is met is said by a number for each record on the way: which of its fields is taken. So the
-- order of these lists in which a list comes before those that go on from it is the one in which fields are met
-- when each record is left only after all that is in it.
inductive Occurs (c : Catalog) : List String → FieldPath → RecordDecl → List Nat → Occurrence → Prop
  | here {within path r index name type} : (r.slots[index]? = some (name, type)) →
    Occurs c within path r [index] ⟨path.child name.name, within, type⟩
  | inside {within path r index name type s place o} : (r.slots[index]? = some (name, type)) →
    (c.record? type = some s) → (Occurs c (within ++ [s.name]) (path.child name.name) s place o) →
    Occurs c within path r (index :: place) o

variable {c : Catalog} {project : String}

namespace Occurs

variable {within : List String} {path : FieldPath} {r s : RecordDecl} {place : List Nat} {o o' : Occurrence}

theorem ne_nil (h : c.Occurs within path r place o) : place ≠ [] := by
  cases h <;> exact List.cons_ne_nil _ _

theorem unique (h : c.Occurs within path r place o) (h' : c.Occurs within path r place o') : o = o' := by
  induction h generalizing o'
  case here hs =>
    cases h'
    case here hs' => cases hs.symm.trans hs'; rfl
    case inside h' => exact absurd rfl h'.ne_nil
  case inside hs hr h hi =>
    cases h'
    case here => exact absurd rfl h.ne_nil
    case inside hr' hs' h' =>
      cases hs.symm.trans hs'
      cases hr.symm.trans hr'
      exact hi h'

theorem nests (h : c.Occurs within path r place o) (hs : c.record? o.type = some s) : TransGen c.Nests r s := by
  induction h
  case here h => exact .single ⟨_, List.mem_of_getElem? h, hs⟩
  case inside h hr _ hi => exact .head ⟨_, List.mem_of_getElem? h, hr⟩ (hi hs)

end Occurs

namespace Expansion

variable {path : FieldPath} {slots : List (Ident × TypeExpr)} {t u : Fields Leaf}

theorem unique (e : Expansion c project path slots t) (e' : Expansion c project path slots u) : t = u := by
  induction e generalizing u
  case nil => cases e'; rfl
  case leaf hr hp _ hi =>
    cases e'
    case leaf hp' e' => rw [Option.some.inj (hp.symm.trans hp'), hi e']
    case record _ hr' _ => cases hr.symm.trans hr'
  case record hr _ _ hi hi' =>
    cases e'
    case leaf hr' _ _ => cases hr.symm.trans hr'
    case record e' hr' e'' =>
      cases hr.symm.trans hr'
      rw [hi e', hi' e'']

-- Further down, the same fields become the same leaves.
theorem under (e : Expansion c project path slots t) (front : FieldPath) :
    Expansion c project (front.append path) slots (t.map (·.under project front)) := by
  induction e
  case nil => exact .nil
  case leaf hr hp _ hi =>
    simp only [Fields.map, Leaf.under, Leaf.ofPath, FieldPath.append_child]
    exact .leaf hr hp hi
  case record hr _ _ hi hi' =>
    simp only [FieldPath.append_child] at hi
    exact .record hr hi hi'

-- A record among the fields is expanded in its place.
theorem of_slot (e : Expansion c project path slots t) {index : Nat} {name : Ident} {type : TypeExpr}
    {s : RecordDecl} (hs : slots[index]? = some (name, type)) (hr : c.record? type = some s) :
    ∃ inner before after, Expansion c project (path.child name.name) s.slots inner ∧
      t.contents = before ++ inner.contents ++ after := by
  induction e generalizing index
  case nil => cases hs
  case leaf l _ hr' _ _ hi =>
    cases index
    case zero => cases hs; cases hr.symm.trans hr'
    case succ =>
      obtain ⟨inner, before, after, e, h⟩ := hi hs
      exact ⟨inner, _ :: before, after, e, congrArg (_ :: ·) h⟩
  case record inner rest hr' e _ _ hi =>
    cases index
    case zero =>
      cases hs
      cases hr.symm.trans hr'
      exact ⟨inner, [], rest.contents, e, rfl⟩
    case succ =>
      obtain ⟨inner', before, after, e, h⟩ := hi hs
      exact ⟨inner', inner.contents ++ before, after, e, by simp [Fields.contents, h]⟩

theorem of_occurs {within : List String} {r s : RecordDecl} {place : List Nat} {o : Occurrence}
    (ho : c.Occurs within path r place o) (hs : c.record? o.type = some s)
    (e : Expansion c project path r.slots t) :
    ∃ inner before after, Expansion c project o.path s.slots inner ∧
      t.contents = before ++ inner.contents ++ after := by
  induction ho generalizing t
  case here h => exact e.of_slot h hs
  case inside h hr _ hi =>
    obtain ⟨inner, before, after, e', h⟩ := e.of_slot h hr
    obtain ⟨inner', before', after', e', h'⟩ := hi hs e'
    exact ⟨inner', before ++ before', after' ++ after, e', by simp [h, h']⟩

end Expansion

theorem Grounded.of_nests {r s : RecordDecl} (w : c.Grounded r) (h : TransGen c.Nests r s) : c.Grounded s :=
  fun u hu => w u (h.to_reflTransGen.trans hu)

theorem flatten_of_grounded {s : RecordDecl} (hs : c.get? s.name = some s) (w : c.Grounded s) :
    ∃ f, c.flatten s.name project = .ok f := by
  have hv : ∀ v ∈ [s.name], ∃ u, c.get? v = some u ∧ ReflTransGen c.Nests u s := by
    simp [hs, ReflTransGen.refl]
  obtain ⟨t, ht⟩ := expand_succeeds hv w
  exact ⟨_, flatten_eq_ok.mpr ⟨s, t, hs, ht, rfl⟩⟩

theorem contents_of_flatten {s : RecordDecl} {f : Flattened} (hs : c.get? s.name = some s)
    (h : c.flatten s.name project = .ok f) {path : FieldPath} {t : Fields Leaf}
    (e : Expansion c project path s.slots t) : t.contents = f.leaves.map (·.under project path) := by
  obtain ⟨r, u, hr, hu, rfl⟩ := flatten_eq_ok.mp h
  cases hs.symm.trans hr
  have e' := (Expansion.of_expand hu).under path
  rw [e.unique (FieldPath.append_root path ▸ e'), Fields.contents_map]
  rfl

-- What a field of a record has to do with the record's leaves: it is one of them, or it has those of a record
-- that can be flattened by itself.
inductive Contributes (c : Catalog) (project : String) : Ident × TypeExpr → List Leaf → Prop
  | leaf {name type p} : (c.record? type = none) → (Primitive.ofType? type = some p) →
    Contributes c project (name, type) [.ofPath project (FieldPath.root.child name.name) type p]
  | record {name type s f} : (c.record? type = some s) → (c.flatten s.name project = .ok f) →
    Contributes c project (name, type) (f.leaves.map (·.under project (FieldPath.root.child name.name)))

theorem contributes_of_expansion {slots : List (Ident × TypeExpr)} {t : Fields Leaf}
    (e : Expansion c project .root slots t)
    (h : ∀ slot ∈ slots, ∀ s, c.record? slot.2 = some s → c.Grounded s) :
    ∃ parts, List.Forall₂ (c.Contributes project) slots parts ∧ t.contents = parts.flatten := by
  induction slots generalizing t
  case nil => cases e; exact ⟨[], .nil, rfl⟩
  case cons slot slots hi =>
    have ⟨hs, hw⟩ := List.forall_mem_cons.mp h
    cases e
    case leaf hr hp e =>
      obtain ⟨parts, hc, he⟩ := hi e hw
      exact ⟨_ :: parts, .cons (.leaf hr hp) hc, congrArg (_ :: ·) he⟩
    case record hr e' e =>
      obtain ⟨parts, hc, he⟩ := hi e hw
      have hg := get?_name_of_record? hr
      obtain ⟨f, hf⟩ : ∃ f, c.flatten _ project = .ok f := flatten_of_grounded hg (hs _ hr)
      refine ⟨_ :: parts, .cons (.record hr hf) hc, ?_⟩
      rw [Fields.contents, contents_of_flatten hg hf e', he, List.flatten_cons]

-- The leaves of a record are what its fields contribute, one after the other. At any depth, a record has the same
-- leaves as by itself.
theorem flatten_compositional {root : String} {f : Flattened} (h : c.flatten root project = .ok f) :
    ∃ r, c.get? root = some r ∧
      (∃ parts, List.Forall₂ (c.Contributes project) r.slots parts ∧ f.leaves = parts.flatten) ∧
      ∀ place o s, c.Occurs [root] .root r place o → c.record? o.type = some s →
        ∃ g before after, c.flatten s.name project = .ok g ∧
          f.leaves = before ++ g.leaves.map (·.under project o.path) ++ after := by
  obtain ⟨r, t, hr, ht, rfl⟩ := flatten_eq_ok.mp h
  have e := Expansion.of_expand ht
  have w := (grounded_of_expand (by simp [name_of_get? hr]) ht).right
  refine ⟨r, hr, contributes_of_expansion e fun slot hm s hs => w.nested ⟨slot, hm, hs⟩, ?_⟩
  intro place o s ho hs
  have hg := get?_name_of_record? hs
  obtain ⟨g, hf⟩ : ∃ g, c.flatten s.name project = .ok g := flatten_of_grounded hg (w.of_nests (ho.nests hs))
  obtain ⟨inner, before, after, e', hc⟩ := Expansion.of_occurs ho hs e
  exact ⟨g, before, after, hf, contents_of_flatten hg hf e' ▸ hc⟩

def east : Ident :=
  .plain "east"

def region : RecordDecl where
  ident  := .plain "Region"
  fields := [⟨[east], plainType cluster.ident⟩]

def regions : Catalog :=
  clusters.insert region

-- A server two levels down, which comes behind others.
theorem flatten_regions :
    ∃ f g before after, regions.flatten "Region" "APP" = .ok f ∧ regions.flatten "Server" "APP" = .ok g ∧
      f.leaves = before ++ g.leaves.map (·.under "APP" ⟨["east", "spare"]⟩) ++ after := by
  obtain ⟨f, hf⟩ := exists_eq_ok (x := regions.flatten "Region" "APP") (by decide +kernel)
  obtain ⟨r, hr, -, h⟩ := flatten_compositional hf
  have hg : regions.get? "Region" = some region := by rfl
  cases hg.symm.trans hr
  have he : region.slots[0]? = some (east, plainType cluster.ident) := rfl
  have hs : cluster.slots[2]? = some (spare, plainType server.ident) := rfl
  have ho : regions.Occurs ["Region"] .root region [0, 2]
      ⟨⟨["east", "spare"]⟩, ["Region", "Cluster"], plainType server.ident⟩ :=
    .inside he (s := cluster) rfl (.here hs)
  obtain ⟨g, before, after, hg, h⟩ := h _ _ server ho rfl
  exact ⟨f, g, before, after, hf, hg, h⟩

end Catalog
end EnvConfig
