import EnvConfig.Proofs.Sentinels

-- The leaves of a record stand on different branches of it: where no record has two fields of one name, the
-- paths of any two leaves part at some field, so that neither leads on to the other. A collision is then
-- always one of two different fields.

namespace EnvConfig

open Source

namespace FieldPath

-- Two paths that are the same down to some record and go on with different fields of it.
inductive Parts (p q : FieldPath) : Prop
  | intro {way a b ps qs} : a ≠ b → (p.segments = way ++ a :: ps) → (q.segments = way ++ b :: qs) → Parts p q

namespace Parts

variable {p q path : FieldPath} {a b : String}

theorem symm : Parts p q → Parts q p
  | intro hn hp hq => intro hn.symm hq hp

theorem not_prefix : Parts p q → ¬p.segments <+: q.segments
  | intro hn hp hq => by simp [hp, hq, List.prefix_append_right_inj, List.cons_prefix_cons, hn]

theorem ne (h : Parts p q) : p ≠ q :=
  fun he => h.not_prefix (he ▸ List.prefix_rfl)

theorem of_children (hn : a ≠ b) (hp : (path.child a).segments <+: p.segments)
    (hq : (path.child b).segments <+: q.segments) : Parts p q := by
  obtain ⟨ps, hp⟩ := hp
  obtain ⟨qs, hq⟩ := hq
  have hp : p.segments = path.segments ++ a :: ps := by simp [← hp]
  have hq : q.segments = path.segments ++ b :: qs := by simp [← hq]
  exact intro hn hp hq

end Parts

-- No name of a field has a point in it.
theorem not_mem_name (i : Ident) : '.' ∉ i.name.toList := by
  intro h
  have hw := i.word
  cases hl : i.name.toList <;> rw [hl] at h hw
  case nil => cases h
  case cons c cs =>
    simp only [Text.isWord, Bool.and_eq_true, List.all_eq_true] at hw
    cases h
    case head => exact absurd hw.left (by decide)
    case tail h => exact absurd (hw.right _ h) (by decide)

-- So the names can be read off what is shown of a path.
theorem segments_eq_of_dotted_eq {p q : FieldPath} {ps qs : List Ident} (hps : ps ≠ []) (hqs : qs ≠ [])
    (hp : p.segments = ps.map (·.name)) (hq : q.segments = qs.map (·.name)) (h : p.dotted = q.dotted) :
    p.segments = q.segments := by
  have hs {p : FieldPath} {ps : List Ident} (hp : p.segments = ps.map (·.name)) (hn : ps ≠ []) :
      (∀ name ∈ p.segments, '.' ∉ name.toList) ∧ p.segments ≠ [] := by
    rw [hp]
    exact ⟨List.forall_mem_map.mpr fun i _ => not_mem_name i, by simpa using hn⟩
  obtain ⟨hp, hnp⟩ := hs hp hps
  obtain ⟨hq, hnq⟩ := hs hq hqs
  exact eq_of_intercalate_eq rfl hp hq hnp hnq h

end FieldPath

namespace Catalog

-- No record has two fields of one name.
def NamesApart (c : Catalog) : Prop :=
  ∀ r ∈ c.records, (r.slots.map (·.1.name)).Nodup

instance (c : Catalog) : Decidable c.NamesApart :=
  inferInstanceAs (Decidable (∀ r ∈ c.records, (r.slots.map (·.1.name)).Nodup))

namespace Expansion

variable {c : Catalog} {project : String} {path : FieldPath} {slots : List (Ident × TypeExpr)} {t : Fields Leaf}
  {l : Leaf}

-- Every leaf is at or below one of the fields.
theorem exists_slot (e : Expansion c project path slots t) (h : l ∈ t.contents) :
    ∃ slot ∈ slots, (path.child slot.1.name).segments <+: l.path.segments := by
  induction e <;> simp only [Fields.contents, List.mem_append, List.mem_cons, List.not_mem_nil] at h
  case leaf hi =>
    cases h
    case inl h => exact ⟨_, .head _, h ▸ List.prefix_rfl⟩
    case inr h =>
      obtain ⟨slot, hs, hp⟩ := hi h
      exact ⟨slot, .tail _ hs, hp⟩
  case record he _ _ hi =>
    cases h
    case inl h =>
      obtain ⟨names, _, hn⟩ := he.segments_eq h
      exact ⟨_, .head _, _, hn.symm⟩
    case inr h =>
      obtain ⟨slot, hs, hp⟩ := hi h
      exact ⟨slot, .tail _ hs, hp⟩

-- What stands at or below a field parts from all that is behind the field, as its name is not used again.
theorem parts_of_slot {name : Ident} {m : Leaf} (e : Expansion c project path slots t)
    (hn : name.name ∉ slots.map (·.1.name)) (hl : (path.child name.name).segments <+: l.path.segments)
    (hm : m ∈ t.contents) : l.path.Parts m.path := by
  obtain ⟨slot, hs, hp⟩ := e.exists_slot hm
  exact .of_children (fun he => hn (List.mem_map.mpr ⟨slot, hs, he.symm⟩)) hl hp

-- One record can be entered on many ways, but the names on the way tell them apart.
theorem pairwise_parts (e : Expansion c project path slots t) (hc : c.NamesApart)
    (hs : (slots.map (·.1.name)).Nodup) : t.contents.Pairwise fun l m => l.path.Parts m.path := by
  induction e
  case nil => exact .nil
  case leaf e hi =>
    have ⟨hn, hs⟩ := List.nodup_cons.mp hs
    exact .cons (fun m hm => e.parts_of_slot hn List.prefix_rfl hm) (hi hs)
  case record hr e e' hi hi' =>
    have ⟨hn, hs⟩ := List.nodup_cons.mp hs
    have hr := hc _ (mem_of_get? (get?_name_of_record? hr))
    refine List.pairwise_append.mpr ⟨hi hr, hi' hs, fun l hl m hm => ?_⟩
    obtain ⟨names, _, hl⟩ := e.segments_eq hl
    exact e'.parts_of_slot hn ⟨_, hl.symm⟩ hm

end Expansion

section Flattened

variable {c : Catalog} {root project : String} {f : Flattened} (h : c.flatten root project = .ok f)
include h

theorem leaves_pairwise_parts (hc : c.NamesApart) : f.leaves.Pairwise fun l m => l.path.Parts m.path := by
  obtain ⟨r, t, hr, ht, rfl⟩ := flatten_eq_ok.mp h
  exact (Expansion.of_expand ht).pairwise_parts hc (hc r (mem_of_get? hr))

theorem leaves_pairwise_name_ne (hc : c.NamesApart) : f.leaves.Pairwise fun l m => l.name ≠ m.name := by
  refine (leaves_pairwise_parts h hc).imp_of_mem fun {l m} hl hm hp hn => ?_
  obtain ⟨ls, hls, hl⟩ := segments_of_flatten h hl
  obtain ⟨ms, hms, hm⟩ := segments_of_flatten h hm
  have he := FieldPath.segments_eq_of_dotted_eq hls hms hl hm hn
  exact hp.not_prefix (he ▸ List.prefix_rfl)

-- A record that is met in several places has its leaves in each of them, and all of these are apart. What two
-- leaves have in common, be it a variable or an identifier, is needed by two different fields.
theorem leaves_apart_of_flatten (hc : c.NamesApart) :
    f.leaves.Pairwise (fun l m => l.path ≠ m.path ∧
      ¬l.path.segments <+: m.path.segments ∧ ¬m.path.segments <+: l.path.segments ∧ l.name ≠ m.name) ∧
    ∀ e, Uniqueness.check f.leaves = .error e → ∃ l m, [l, m].Sublist f.leaves ∧ l.name ≠ m.name ∧
      (e = .duplicateKey m.key l.name m.name ∧ l.key = m.key ∨
        ∃ ident ∈ l.identifiers, ident ∈ m.identifiers ∧ e = .duplicateIdentifier ident l.name m.name) := by
  have hn := leaves_pairwise_name_ne h hc
  refine ⟨?apart, ?collision⟩
  case apart =>
    refine (leaves_pairwise_parts h hc).imp₂ (fun l m hp hn => ?_) hn
    exact ⟨hp.ne, hp.not_prefix, hp.symm.not_prefix, hn⟩
  case collision =>
    intro e he
    obtain ⟨before, m, after, l, hs, hl, hc⟩ := collision_of_check h he
    have hlm : [l, m].Sublist f.leaves :=
      hs ▸ (List.singleton_sublist.mpr hl).append (List.singleton_sublist.mpr (.head after))
    refine ⟨l, m, hlm, List.rel_of_pairwise_cons (hn.sublist hlm) (.head _), ?_⟩
    exact hc.imp_right (·.right)

end Flattened

theorem leaves_of_rack_apart :
    (clusters.insert rack).NamesApart ∧ ∃ f l m, (clusters.insert rack).flatten "Rack" "APP" = .ok f ∧
      [l, m].Sublist f.leaves ∧ l.name ≠ m.name ∧ "val_main_host" ∈ l.identifiers ∧
      "val_main_host" ∈ m.identifiers := by
  have hc : (clusters.insert rack).NamesApart := by decide
  obtain ⟨f, hf, he⟩ := exists_of_any (x := (clusters.insert rack).flatten "Rack" "APP")
    (p := fun f => Uniqueness.check f.leaves =
      .error (.duplicateIdentifier "val_main_host" "main_host" "main.host")) (by decide +kernel)
  obtain ⟨l, m, hs, hn, ⟨he, -⟩ | ⟨_, hl, hm, he⟩⟩ :=
    (leaves_apart_of_flatten hf hc).right _ (of_decide_eq_true he)
  case inl => cases he
  case inr =>
    obtain ⟨rfl, -⟩ := Problem.duplicateIdentifier.inj he
    exact ⟨hc, f, l, m, hf, hs, hn, hl, hm⟩

end Catalog
end EnvConfig
