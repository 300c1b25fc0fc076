import EnvConfig.FieldPath
import EnvConfig.Record
import Mathlib.Data.List.Zip

-- A record is its shape and what its leaves hold: two records of the same shape with the same contents are
-- equal. All that is known of numbering, replacing and looking up leaves follows from what it does to these
-- two.

namespace EnvConfig

open Source

namespace Fields

variable {α β : Type}

-- The fields without what their leaves hold.
def shape (t : Fields α) : Fields Unit :=
  t.map fun _ => ()

-- What the leaves hold, each with the path that leads to it from the record at the given path.
def entries (path : FieldPath) : Fields α → List (FieldPath × α)
  | nil => []
  | leaf name a rest => (path.child name.name, a) :: rest.entries path
  | record name _ inner rest => inner.entries (path.child name.name) ++ rest.entries path

theorem map_map {γ : Type} (g : β → γ) (f : α → β) (t : Fields α) :
    (t.map f).map g = t.map (g ∘ f) := by
  induction t <;> simp_all [map]

@[simp]
theorem contents_map (f : α → β) (t : Fields α) : (t.map f).contents = t.contents.map f := by
  induction t <;> simp_all [map, contents]

theorem length_contents_eq {t : Fields α} {u : Fields β} (h : t.shape = u.shape) :
    t.contents.length = u.contents.length := by
  have h := congrArg (·.contents.length) h
  simpa [shape] using h

-- The shape says where the contents of one record in another end.
theorem ext {t u : Fields α} (hs : t.shape = u.shape) (hc : t.contents = u.contents) : t = u := by
  induction t generalizing u <;> cases u <;> simp [shape, map] at hs
  case nil.nil => rfl
  case leaf.leaf hi _ _ _ =>
    simp only [contents, List.cons.injEq] at hc
    simp [hs.left, hc.left, hi hs.right hc.right]
  case record.record hi hr _ _ _ _ =>
    have ⟨hn, ht, hs₁, hs₂⟩ := hs
    have ⟨hc₁, hc₂⟩ := List.append_inj hc (length_contents_eq hs₁)
    simp [hn, ht, hi hs₁ hc₁, hr hs₂ hc₂]

theorem entries_map (f : α → β) (t : Fields α) (path : FieldPath) :
    (t.map f).entries path = (t.entries path).map fun (p, a) => (p, f a) := by
  induction t generalizing path <;> simp_all [map, entries]

@[simp]
theorem map_snd_entries (t : Fields α) (path : FieldPath) :
    (t.entries path).map (·.2) = t.contents := by
  induction t generalizing path <;> simp_all [entries, contents]

theorem map_fst_entries_eq {t : Fields α} {u : Fields β} (h : t.shape = u.shape) (path : FieldPath) :
    (t.entries path).map (·.1) = (u.entries path).map (·.1) := by
  have h := congrArg (fun s => (s.entries path).map (·.1)) h
  simpa [shape, entries_map, Function.comp_def] using h

theorem numbered_snd (t : Fields α) (start : Nat) :
    (t.numbered start).2 = start + t.contents.length := by
  induction t generalizing start <;> simp_all [numbered, contents]
  all_goals omega

@[simp]
theorem shape_numbered (t : Fields α) (start : Nat) : (t.numbered start).1.shape = t.shape := by
  induction t generalizing start <;> simp_all [numbered, shape, map]

-- The numbers go on behind an inner record where that record has stopped.
theorem contents_numbered (t : Fields α) (start : Nat) :
    (t.numbered start).1.contents = List.range' start t.contents.length := by
  induction t generalizing start
  case nil => rfl
  case leaf hi => simp [numbered, contents, hi, List.range'_succ]
  case record hi hr => simp [numbered, contents, hi, hr, numbered_snd, List.range'_append_1]

theorem traverse?_map {γ : Type} (f : β → Option γ) (g : α → β) (t : Fields α) :
    (t.map g).traverse? f = t.traverse? (f ∘ g) := by
  induction t <;> simp_all [map, traverse?]

theorem traverse?_congr {f g : α → Option β} {t : Fields α} (h : ∀ a ∈ t.contents, f a = g a) :
    t.traverse? f = t.traverse? g := by
  induction t
  case nil => rfl
  case leaf hi => simp_all [contents, traverse?]
  case record hi hr =>
    simp only [contents, List.mem_append] at h
    simp [traverse?, hi fun a ha => h a (.inl ha), hr fun a ha => h a (.inr ha)]

theorem isSome_traverse? {f : α → Option β} {t : Fields α} :
    (t.traverse? f).isSome ↔ ∀ a ∈ t.contents, (f a).isSome := by
  induction t
  case nil => simp [traverse?, contents]
  case leaf a rest hi =>
    simp only [contents, List.forall_mem_cons, ← hi]
    cases hf : f a <;> cases hr : rest.traverse? f <;> simp [traverse?, hf, hr]
  case record inner rest hi hr =>
    simp only [contents, List.forall_mem_append, ← hi, ← hr]
    cases ht : inner.traverse? f <;> cases hu : rest.traverse? f <;> simp [traverse?, ht, hu]

-- Each leaf of the result holds what replaces it.
theorem traverse?_eq_some {f : α → Option β} {t : Fields α} {u : Fields β} :
    t.traverse? f = some u ↔ u.map some = t.map f := by
  induction t generalizing u
  case nil => cases u <;> simp [traverse?, map]
  case leaf a rest hi =>
    cases hf : f a <;> cases u <;> simp [traverse?, map, hf, Option.bind_eq_some_iff, hi]
    grind
  case record inner rest hi hr =>
    cases u <;> simp [traverse?, map, Option.bind_eq_some_iff, hi, hr]
    grind

end Fields

namespace Record

variable {α β : Type}

def shape (r : Record α) : Record Unit :=
  r.map fun _ => ()

def entries (r : Record α) : List (FieldPath × α) :=
  r.fields.entries .root

@[simp]
theorem shape_map (f : α → β) (r : Record α) : (r.map f).shape = r.shape := by
  simp [shape, map, Fields.map_map, Function.comp_def]

@[simp]
theorem contents_map (f : α → β) (r : Record α) : (r.map f).contents = r.contents.map f :=
  Fields.contents_map ..

theorem shape_eq_iff {r : Record α} {s : Record β} :
    r.shape = s.shape ↔ r.type = s.type ∧ r.fields.shape = s.fields.shape := by
  simp [shape, map, Fields.shape]

theorem length_contents_eq {r : Record α} {s : Record β} (h : r.shape = s.shape) :
    r.contents.length = s.contents.length :=
  Fields.length_contents_eq (shape_eq_iff.mp h).right

theorem ext {r s : Record α} (hs : r.shape = s.shape) (hc : r.contents = s.contents) : r = s := by
  have ⟨ht, hf⟩ := shape_eq_iff.mp hs
  cases r; cases s
  exact congrArg₂ Record.mk ht (Fields.ext hf hc)

theorem entries_map (f : α → β) (r : Record α) :
    (r.map f).entries = r.entries.map fun (p, a) => (p, f a) :=
  Fields.entries_map ..

@[simp]
theorem map_snd_entries (r : Record α) : r.entries.map (·.2) = r.contents :=
  Fields.map_snd_entries ..

theorem map_fst_entries_eq {r : Record α} {s : Record β} (h : r.shape = s.shape) :
    r.entries.map (·.1) = s.entries.map (·.1) :=
  Fields.map_fst_entries_eq (shape_eq_iff.mp h).right _

@[simp]
theorem shape_numbered (r : Record α) : r.numbered.shape = r.shape := by
  simp [shape_eq_iff, numbered]

theorem contents_numbered (r : Record α) : r.numbered.contents = List.range r.contents.length := by
  simp [contents, numbered, Fields.contents_numbered, List.range_eq_range']

theorem traverse?_map {γ : Type} (f : β → Option γ) (g : α → β) (r : Record α) :
    (r.map g).traverse? f = r.traverse? (f ∘ g) := by
  simp [traverse?, map, Fields.traverse?_map]

theorem traverse?_congr {f g : α → Option β} {r : Record α} (h : ∀ a ∈ r.contents, f a = g a) :
    r.traverse? f = r.traverse? g := by
  simp [traverse?, Fields.traverse?_congr h]

theorem isSome_traverse? {f : α → Option β} {r : Record α} :
    (r.traverse? f).isSome ↔ ∀ a ∈ r.contents, (f a).isSome := by
  rw [contents, ← Fields.isSome_traverse?]
  cases h : r.fields.traverse? f <;> simp [traverse?, h]

theorem traverse?_eq_some {f : α → Option β} {r : Record α} {s : Record β} :
    r.traverse? f = some s ↔ s.map some = r.map f := by
  obtain ⟨type, t⟩ := r
  obtain ⟨type', u⟩ := s
  calc
    _ ↔ type' = type ∧ t.traverse? f = some u := by
      cases h : t.traverse? f <;> simp [traverse?, h, eq_comm (b := type'), eq_comm (b := u)]
    _ ↔ type' = type ∧ u.map some = t.map f := by rw [Fields.traverse?_eq_some]
    _ ↔ _ := by simp [map]

end Record
end EnvConfig
