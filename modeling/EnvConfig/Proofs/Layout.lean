import EnvConfig.Proofs.Expansion

-- The layout of a flattened record and the list of its leaves belong together: a number in the layout is
-- the place, in the list, of the leaf that the field with the number has become.

namespace EnvConfig

open Source

-- What one field of a record holds.
inductive Slot (α : Type) where
  | leaf   (content : α)
  | record (inner : Record α)

namespace Fields

variable {α : Type}

def slots : Fields α → List (Ident × Slot α)
  | nil => []
  | leaf name a rest => (name, .leaf a) :: rest.slots
  | record name type inner rest => (name, .record ⟨type, inner⟩) :: rest.slots

-- All records in the fields, at any depth.
def records : Fields α → List (Record α)
  | nil => []
  | leaf _ _ rest => rest.records
  | record _ type inner rest => ⟨type, inner⟩ :: inner.records ++ rest.records

end Fields

def Record.records {α : Type} (r : Record α) : List (Record α) :=
  r :: r.fields.records

namespace Catalog

-- What stands in a layout for a field of a record of the catalog: the number of a leaf that has the field's
-- type, or the layout of the record that the type names.
inductive Fills (c : Catalog) (leaves : List Leaf) : Ident × TypeExpr → Ident × Slot Nat → Prop
  | leaf {name type index l} : (c.record? type = none) → (leaves[index]? = some l) → (l.type = type) →
    Fills c leaves (name, type) (name, .leaf index)
  | record {name type r inner} : (c.record? type = some r) → (inner.type = r.ident) →
    Fills c leaves (name, type) (name, .record inner)

-- A layout that has the fields of the catalog's record of that name, one for each name that is declared
-- and in the order of the declarations.
structure LaysOut (c : Catalog) (leaves : List Leaf) (layout : Record Nat) (r : RecordDecl) : Prop where
  get   : c.get? layout.type.name = some r
  type  : layout.type = r.ident
  names : layout.fields.slots.map (·.1) = r.fields.flatMap (·.names)
  slots : List.Forall₂ (c.Fills leaves) (r.fields.flatMap fun d => d.names.map (·, d.type))
    layout.fields.slots

namespace LaysOut

variable {c : Catalog} {leaves : List Leaf}

theorem map_fst_slots_eq {slots : List (Ident × TypeExpr)} {filled : List (Ident × Slot Nat)}
    (h : List.Forall₂ (c.Fills leaves) slots filled) : filled.map (·.1) = slots.map (·.1) := by
  induction h
  case nil => rfl
  case cons h _ hi => cases h <;> simp [hi]

theorem of_fills {r : RecordDecl} {fields : Fields Nat} (hr : c.get? r.name = some r)
    (h : List.Forall₂ (c.Fills leaves) r.slots fields.slots) :
    c.LaysOut leaves ⟨r.ident, fields⟩ r where
  get   := hr
  type  := rfl
  names := by simp [map_fst_slots_eq h, RecordDecl.slots, List.map_flatMap, Function.comp_def]
  slots := h

end LaysOut

namespace Expansion

variable {c : Catalog} {project : String} {leaves : List Leaf}

-- The numbers start behind the leaves `before` that come from other fields, and go on with those `after`.
theorem laysOut {path : FieldPath} {slots : List (Ident × TypeExpr)} {t : Fields Leaf}
    (e : Expansion c project path slots t) (before after : List Leaf)
    (h : leaves = before ++ t.contents ++ after) :
    List.Forall₂ (c.Fills leaves) slots (t.numbered before.length).1.slots ∧
      ∀ n ∈ (t.numbered before.length).1.records, ∃ r, c.LaysOut leaves n r := by
  induction e generalizing before after
  case nil => simp [Fields.numbered, Fields.slots, Fields.records]
  case leaf path name type p slots rest hr _ _ hi =>
    let l := Leaf.ofPath project (path.child name.name) type p
    have hl : leaves[before.length]? = some l := by simp [h, l, Fields.contents]
    obtain ⟨hs, hn⟩ := hi (before ++ [l]) after (by simp [h, l, Fields.contents])
    simp only [List.length_append, List.length_singleton] at hs hn
    exact ⟨.cons (.leaf hr hl rfl) hs, hn⟩
  case record path name type r slots inner rest hr _ _ hi hi' =>
    obtain ⟨hs, hn⟩ := hi before (rest.contents ++ after) (by simp [h, Fields.contents])
    obtain ⟨hs', hn'⟩ := hi' (before ++ inner.contents) after (by simp [h, Fields.contents])
    simp only [List.length_append] at hs' hn'
    simp only [Fields.numbered, Fields.numbered_snd, Fields.slots, Fields.records]
    refine ⟨.cons (.record hr rfl) hs', ?_⟩
    intro n hm
    simp only [List.cons_append, List.mem_cons, List.mem_append] at hm
    obtain rfl | hm | hm := hm
    case inl => exact ⟨r, .of_fills (get?_name_of_record? hr) hs⟩
    case inr.inl => exact hn n hm
    case inr.inr => exact hn' n hm

theorem entries_numbered {path : FieldPath} {slots : List (Ident × TypeExpr)} {t : Fields Leaf}
    (e : Expansion c project path slots t) (start : Nat) :
    (t.numbered start).1.entries path = (t.contents.zipIdx start).map fun (l, i) => (l.path, i) := by
  induction e generalizing start
  case nil => rfl
  case leaf hi => simp [Fields.numbered, Fields.entries, Fields.contents, hi, Leaf.ofPath]
  case record hi hi' =>
    simp [Fields.numbered, Fields.numbered_snd, Fields.entries, Fields.contents, hi, hi',
      List.zipIdx_append]

end Expansion

-- The places of the leaves are the numbers of the layout in their order, each at the path of its leaf.
theorem layout_agrees_with_leaves {c : Catalog} {root project : String} {f : Flattened}
    (h : c.flatten root project = .ok f) :
    f.layout.contents = List.range f.leaves.length ∧
    f.layout.entries = f.leaves.mapIdx (fun index l => (l.path, index)) ∧
    f.layout.type.name = root ∧
    (∀ n ∈ f.layout.records, ∃ r, c.LaysOut f.leaves n r) ∧
    ∀ l ∈ f.leaves,
      Primitive.ofType? l.type = some l.primitive ∧
      l.key = Naming.variableName project l.path ∧
      l.missing = Naming.missingName project l.path ∧
      l.invalid = if l.parsing.canFail then some (Naming.invalidName project l.path) else none := by
  obtain ⟨r, t, hr, ht, rfl⟩ := flatten_eq_ok.mp h
  have e := Expansion.of_expand ht
  refine ⟨?contents, ?entries, name_of_get? hr, ?laysOut, ?leaves⟩
  case contents => exact Record.contents_numbered _
  case entries =>
    rw [List.mapIdx_eq_zipIdx_map]
    exact e.entries_numbered 0
  case laysOut =>
    have ⟨hs, hn⟩ := e.laysOut [] [] (show t.contents = [] ++ t.contents ++ [] by simp)
    intro n hm
    cases List.mem_cons.mp hm
    case inl hm => exact ⟨r, hm ▸ .of_fills ((name_of_get? hr).symm ▸ hr) hs⟩
    case inr hm => exact hn n hm
  case leaves =>
    intro l hl
    have ⟨hl, hp⟩ := e.leaf_eq hl
    exact ⟨hp, congrArg Leaf.key hl, congrArg Leaf.missing hl, congrArg Leaf.invalid hl⟩

def plainType (name : Ident) : TypeExpr where
  shape  := .path false ⟨false, [⟨name, .absent⟩]⟩
  tokens := []

def host : Ident :=
  .plain "host"

def level : Ident :=
  .plain "level"

def main : Ident :=
  .plain "main"

def spare : Ident :=
  .plain "spare"

def server : RecordDecl where
  ident  := .plain "Server"
  fields := [⟨[host], plainType (.plain "String")⟩]

-- One declaration has the names of two fields.
def cluster : RecordDecl where
  ident  := .plain "Cluster"
  fields := [
    ⟨[level], plainType (.plain "i8")⟩,
    ⟨[main, spare], plainType server.ident⟩]

def clusters : Catalog :=
  (empty.insert server).insert cluster

theorem layout_of_cluster :
    ∃ f, clusters.flatten "Cluster" "APP" = .ok f ∧ f.layout.contents = List.range 3 := by
  have hl : (clusters.flatten "Cluster" "APP").toOption.map (·.leaves.length) = some 3 := by decide +kernel
  obtain ⟨f, hf⟩ := exists_eq_ok (x := clusters.flatten "Cluster" "APP") (by decide +kernel)
  have hc := (layout_agrees_with_leaves hf).left
  simp only [hf, Except.toOption, Option.map_some, Option.some.injEq] at hl
  exact ⟨f, hf, hl ▸ hc⟩

end Catalog
end EnvConfig
