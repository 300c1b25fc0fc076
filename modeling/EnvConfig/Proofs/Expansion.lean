import EnvConfig.Flatten
import EnvConfig.Proofs.Fields
import EnvConfig.Proofs.Results

-- What a record is expanded to, apart from how the expansion is found. The relation has nothing of the way
-- down to a record but its path, so that everything about the result of an expansion is an induction over
-- it, and the records that are being visited matter to its success alone.

namespace EnvConfig

open Source

namespace Catalog

-- The fields that some slots of a record become: a leaf for each that is no record, and all fields of the
-- record for each that is one.
inductive Expansion (c : Catalog) (project : String) :
    FieldPath → List (Ident × TypeExpr) → Fields Leaf → Prop
  | nil {path} : Expansion c project path [] .nil
  | leaf {path name type p slots rest} :
    (c.record? type = none) → (Primitive.ofType? type = some p) →
    (Expansion c project path slots rest) →
    Expansion c project path ((name, type) :: slots)
      (.leaf name (.ofPath project (path.child name.name) type p) rest)
  | record {path name type r slots inner rest} :
    (c.record? type = some r) → (Expansion c project (path.child name.name) r.slots inner) →
    (Expansion c project path slots rest) →
    Expansion c project path ((name, type) :: slots) (.record name r.ident inner rest)

section Slots

variable {c : Catalog} {project : String} {visiting : List String} {path : FieldPath} {name : Ident}
  {type : TypeExpr} {slots : List (Ident × TypeExpr)} {t : Fields Leaf}
  {enter : (r : RecordDecl) → r.name ∈ c.names → r.name ∉ visiting → FieldPath →
    Except Problem (Fields Leaf)}

-- All that can have happened at a slot if there was no problem.
theorem expandSlots_cons_eq_ok
    (h : c.expandSlots project visiting enter path ((name, type) :: slots) = .ok t) :
    ∃ rest, c.expandSlots project visiting enter path slots = .ok rest ∧
      ((∃ r hn hv inner, c.record? type = some r ∧
          enter r hn hv (path.child name.name) = .ok inner ∧ t = .record name r.ident inner rest) ∨
        ∃ p, c.record? type = none ∧ Primitive.ofType? type = some p ∧
          t = .leaf name (.ofPath project (path.child name.name) type p) rest) := by
  rw [expandSlots] at h
  split at h
  case h_1 r hr =>
    split at h
    case isTrue => cases h
    case isFalse hv =>
      simp only [bind_eq_ok, pure_eq_ok] at h
      obtain ⟨inner, hi, rest, hs, rfl⟩ := h
      exact ⟨rest, hs, .inl ⟨r, _, hv, inner, hr, hi, rfl⟩⟩
  case h_2 hr =>
    split at h
    case h_1 => cases h
    case h_2 p hp =>
      simp only [bind_eq_ok, pure_eq_ok] at h
      obtain ⟨rest, hs, rfl⟩ := h
      exact ⟨rest, hs, .inr ⟨p, hr, hp, rfl⟩⟩

end Slots

namespace Expansion

variable {c : Catalog} {project : String}

theorem of_expandSlots {visiting : List String} {path : FieldPath} {slots : List (Ident × TypeExpr)}
    {t : Fields Leaf}
    {enter : (r : RecordDecl) → r.name ∈ c.names → r.name ∉ visiting → FieldPath →
      Except Problem (Fields Leaf)}
    (he : ∀ r hn hv child inner, enter r hn hv child = .ok inner →
      Expansion c project child r.slots inner)
    (h : c.expandSlots project visiting enter path slots = .ok t) :
    Expansion c project path slots t := by
  induction slots generalizing t
  case nil =>
    cases h
    exact .nil
  case cons slot slots hi =>
    obtain ⟨rest, hs, ⟨r, hn, hv, inner, hr, he', rfl⟩ | ⟨p, hr, hp, rfl⟩⟩ := expandSlots_cons_eq_ok h
    case inl => exact .record hr (he _ _ _ _ _ he') (hi hs)
    case inr => exact .leaf hr hp (hi hs)

theorem of_expand {visiting : List String} {path : FieldPath} {r : RecordDecl} {t : Fields Leaf}
    (h : c.expand project visiting path r = .ok t) : Expansion c project path r.slots t := by
  induction visiting, path, r using expand.induct c generalizing t
  case case1 visiting path r hi =>
    rw [expand] at h
    exact of_expandSlots (fun s hn hv child inner h => hi s hn hv child h) h

-- The leaves know their paths.
theorem entries_eq {path : FieldPath} {slots : List (Ident × TypeExpr)} {t : Fields Leaf}
    (e : Expansion c project path slots t) : t.entries path = t.contents.map fun l => (l.path, l) := by
  induction e
  case nil => rfl
  case leaf hi => simp [Fields.entries, Fields.contents, hi, Leaf.ofPath]
  case record hi hr => simp [Fields.entries, Fields.contents, hi, hr]

-- All that a leaf holds follows from its path and its type.
theorem leaf_eq {path : FieldPath} {slots : List (Ident × TypeExpr)} {t : Fields Leaf} {l : Leaf}
    (e : Expansion c project path slots t) (h : l ∈ t.contents) :
    l = .ofPath project l.path l.type l.primitive ∧ Primitive.ofType? l.type = some l.primitive := by
  induction e <;> simp only [Fields.contents, List.mem_append, List.mem_cons, List.not_mem_nil] at h
  case leaf hp _ hi =>
    cases h
    case inl h => exact h ▸ ⟨rfl, hp⟩
    case inr h => exact hi h
  case record hi hr =>
    cases h
    case inl h => exact hi h
    case inr h => exact hr h

-- Only values that can be invalid are reported as such.
theorem isSome_invalid {path : FieldPath} {slots : List (Ident × TypeExpr)} {t : Fields Leaf} {l : Leaf}
    (e : Expansion c project path slots t) (h : l ∈ t.contents) :
    l.invalid.isSome = l.parsing.canFail := by
  have ⟨hl, _⟩ := e.leaf_eq h
  rw [hl]
  by_cases hf : l.primitive.parsing.canFail <;> simp [Leaf.ofPath, Leaf.parsing, hf]

-- A leaf's path leads from the record down by the names of fields, at least one.
theorem segments_eq {path : FieldPath} {slots : List (Ident × TypeExpr)} {t : Fields Leaf} {l : Leaf}
    (e : Expansion c project path slots t) (h : l ∈ t.contents) :
    ∃ names : List Ident, names ≠ [] ∧ l.path.segments = path.segments ++ names.map (·.name) := by
  induction e <;> simp only [Fields.contents, List.mem_append, List.mem_cons, List.not_mem_nil] at h
  case leaf name _ _ _ _ _ _ _ hi =>
    cases h
    case inl h => exact ⟨[name], by simp [h, Leaf.ofPath]⟩
    case inr h => exact hi h
  case record name _ _ _ _ _ _ _ _ hi hr =>
    cases h
    case inl h =>
      obtain ⟨names, _, h⟩ := hi h
      exact ⟨name :: names, by simp [h]⟩
    case inr h => exact hr h

end Expansion

theorem flatten_eq_ok {c : Catalog} {root project : String} {f : Flattened} :
    c.flatten root project = .ok f ↔ ∃ r t, c.get? root = some r ∧
      c.expand project [root] .root r = .ok t ∧ f = .ofRecord ⟨r.ident, t⟩ := by
  rw [flatten]
  split
  case h_1 hr => simp [hr]
  case h_2 r hr =>
    simp only [bind_eq_ok, pure_eq_ok]
    simp [hr, eq_comm (b := f)]

theorem leaf_of_flatten {c : Catalog} {root project : String} {f : Flattened} {l : Leaf}
    (h : c.flatten root project = .ok f) (hl : l ∈ f.leaves) : l = .ofPath project l.path l.type l.primitive := by
  obtain ⟨r, t, -, ht, rfl⟩ := flatten_eq_ok.mp h
  exact ((Expansion.of_expand ht).leaf_eq hl).left

theorem segments_of_flatten {c : Catalog} {root project : String} {f : Flattened} {l : Leaf}
    (h : c.flatten root project = .ok f) (hl : l ∈ f.leaves) :
    ∃ names : List Ident, names ≠ [] ∧ l.path.segments = names.map (·.name) := by
  obtain ⟨r, t, -, ht, rfl⟩ := flatten_eq_ok.mp h
  simpa using (Expansion.of_expand ht).segments_eq hl

end Catalog
end EnvConfig
