import EnvConfig.Source.Reading

-- The records that a source file declares, by name.

namespace EnvConfig

open Source

namespace Source.RecordDecl

def name (r : RecordDecl) : String :=
  r.ident.name

-- The fields one by one, each with its type. A declaration without names declares none.
def slots (r : RecordDecl) : List (Ident × TypeExpr) :=
  r.fields.flatMap fun d => d.names.map (·, d.type)

end Source.RecordDecl

-- The records are kept in the order of their names, and no two have the same name.
structure Catalog where
  records : List RecordDecl
  sorted  : records.Pairwise (·.name < ·.name)

namespace Catalog

def empty : Catalog where
  records := []
  sorted  := .nil

-- Puts a record in its place, instead of a record of the same name if there is one.
def insertInto (r : RecordDecl) : List RecordDecl → List RecordDecl
  | []      => [r]
  | s :: rs =>
    if r.name < s.name then r :: s :: rs
    else if s.name < r.name then s :: insertInto r rs
    else r :: rs

namespace insertInto

theorem mem {r t : RecordDecl} {rs : List RecordDecl} (h : t ∈ insertInto r rs) : t = r ∨ t ∈ rs := by
  induction rs
  case nil => simp_all [insertInto]
  case cons s rs hi =>
    rw [insertInto] at h
    split at h
    case isTrue => simpa using h
    case isFalse => split at h <;> grind

theorem sorted {r : RecordDecl} {rs : List RecordDecl} (h : rs.Pairwise (·.name < ·.name)) :
    (insertInto r rs).Pairwise (·.name < ·.name) := by
  induction rs
  case nil => simp [insertInto]
  case cons s rs hi =>
    have ⟨hs, hr⟩ := List.pairwise_cons.mp h
    rw [insertInto]
    split
    case isTrue hlt =>
      refine List.pairwise_cons.mpr ⟨?_, h⟩
      intro t ht
      cases ht
      case head => exact hlt
      case tail ht => exact String.lt_trans hlt (hs t ht)
    case isFalse hnlt =>
      split
      case isTrue hlt =>
        refine List.pairwise_cons.mpr ⟨?_, hi hr⟩
        intro t ht
        cases mem ht
        case inl ht => exact ht ▸ hlt
        case inr ht => exact hs t ht
      case isFalse hngt =>
        have he := String.le_antisymm (String.not_lt.mp hngt) (String.not_lt.mp hnlt)
        exact List.pairwise_cons.mpr ⟨fun t ht => he ▸ hs t ht, hr⟩

end insertInto

def insert (c : Catalog) (r : RecordDecl) : Catalog where
  records := insertInto r c.records
  sorted  := insertInto.sorted c.sorted

def get? (c : Catalog) (name : String) : Option RecordDecl :=
  c.records.find? (·.name == name)

theorem mem_of_get? {c : Catalog} {name : String} {r : RecordDecl} (h : c.get? name = some r) :
    r ∈ c.records :=
  List.mem_of_find?_eq_some h

theorem name_of_get? {c : Catalog} {name : String} {r : RecordDecl} (h : c.get? name = some r) :
    r.name = name := by
  simpa using List.find?_some h

def contains (c : Catalog) (name : String) : Bool :=
  (c.get? name).isSome

def names (c : Catalog) : List String :=
  c.records.map (·.name)

theorem name_mem_names {c : Catalog} {r : RecordDecl} (h : r ∈ c.records) : r.name ∈ c.names :=
  List.mem_map_of_mem h

def size (c : Catalog) : Nat :=
  c.records.length

-- The records among the items of a file. A later one replaces an earlier one of the same name.
def ofItems (items : List Item) : Catalog :=
  items.foldl (fun c item =>
    match item with
    | .record r => c.insert r
    | .other    => c) empty

end Catalog
end EnvConfig
