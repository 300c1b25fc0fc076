import EnvConfig.Catalog
import EnvConfig.Leaf
import EnvConfig.Problem
import EnvConfig.Record

-- From a record to its leaves: fields that are records of the catalog are replaced by their fields, all
-- others are leaves.

namespace EnvConfig

open Source

-- The leaves in the order in which they are declared, and the shape of the root record, in which each
-- leaf stands by its number.
structure Flattened where
  layout : Record Nat
  leaves : List Leaf
  deriving Repr

namespace Flattened

-- A record with its leaves in place, taken apart.
def ofRecord (r : Record Leaf) : Flattened where
  layout := r.numbered
  leaves := r.contents

end Flattened

namespace Catalog

-- The record that a type names, if there is one. Records come before primitives of the same name.
def record? (c : Catalog) (t : TypeExpr) : Option RecordDecl :=
  t.name?.bind c.get?

theorem get?_name_of_record? {c : Catalog} {t : TypeExpr} {r : RecordDecl}
    (h : c.record? t = some r) : c.get? r.name = some r :=
  have ⟨_, _, hr⟩ := Option.bind_eq_some_iff.mp h
  (name_of_get? hr) ▸ hr

theorem name_mem_names_of_record? {c : Catalog} {t : TypeExpr} {r : RecordDecl}
    (h : c.record? t = some r) : r.name ∈ c.names :=
  name_mem_names (mem_of_get? (get?_name_of_record? h))

-- The records that can still be entered on the way through some others.
def unvisited (c : Catalog) (visiting : List String) : List String :=
  c.names.filter (· ∉ visiting)

theorem unvisited_length_lt {c : Catalog} {visiting : List String} {name : String}
    (hn : name ∈ c.names) (hv : name ∉ visiting) :
    (c.unvisited (visiting ++ [name])).length < (c.unvisited visiting).length := by
  have h : c.unvisited (visiting ++ [name]) = (c.unvisited visiting).filter (· ≠ name) := by
    simp [unvisited, List.filter_filter, not_or, and_comm]
  rw [h, List.length_filter_lt_length_iff_exists]
  exact ⟨name, by simp [unvisited, hn, hv]⟩

-- The fields of a record with all records in them replaced. `enter` does so for the record of a field,
-- unless it is one of those on the way to it: `visiting` lists these, the outermost first.
def expandSlots (c : Catalog) (project : String) (visiting : List String)
    (enter : (r : RecordDecl) → r.name ∈ c.names → r.name ∉ visiting → FieldPath →
      Except Problem (Fields Leaf))
    (path : FieldPath) : List (Ident × TypeExpr) → Except Problem (Fields Leaf)
  | [] => .ok .nil
  | (name, type) :: slots =>
    let child := path.child name.name
    match h : c.record? type with
    | some r =>
      if hv : r.name ∈ visiting then .error (.recursiveRecord r.name child.dotted)
      else do
        let inner ← enter r (name_mem_names_of_record? h) hv child
        return .record name r.ident inner (← expandSlots c project visiting enter path slots)
    | none =>
      match Primitive.ofType? type with
      | none   => .error (.unsupportedType type.display child.dotted)
      | some p => do
        let leaf := Leaf.ofPath project child type p
        return .leaf name leaf (← expandSlots c project visiting enter path slots)

-- Enters a record, and the records in it. No record is entered inside itself, so every step down leaves
-- one record less that can still be entered.
def expand (c : Catalog) (project : String) (visiting : List String) (path : FieldPath)
    (r : RecordDecl) : Except Problem (Fields Leaf) :=
  c.expandSlots project visiting
    (fun s _ _ child => c.expand project (visiting ++ [s.name]) child s) path r.slots
termination_by (c.unvisited visiting).length
decreasing_by exact unvisited_length_lt ‹_› ‹_›

def flatten (c : Catalog) (root project : String) : Except Problem Flattened :=
  match c.get? root with
  | none   => .error (.recordNotFound root c.names)
  | some r => do
    let fields ← c.expand project [root] .root r
    return .ofRecord ⟨r.ident, fields⟩

end Catalog
end EnvConfig
