import EnvConfig.Proofs.Occurrences
import EnvConfig.Proofs.Relevance
import Mathlib.Data.List.Lex

-- If a record cannot be flattened, what is reported is the first field, of all that are met on the way down from
-- the record, that is in the way.

namespace EnvConfig

open Source

namespace Catalog

-- A field at which nothing goes on, with what is reported of it: its type is neither a record nor a primitive, or
-- it is a record that the field is in.
inductive Stops (c : Catalog) : Occurrence → Problem → Prop
  | unsupported {path within type} : (c.record? type = none) → (Primitive.ofType? type = none) →
    Stops c ⟨path, within, type⟩ (.unsupportedType type.display path.dotted)
  | recursive {path within type s} : (c.record? type = some s) → (s.name ∈ within) →
    Stops c ⟨path, within, type⟩ (.recursiveRecord s.name path.dotted)

-- A field of a primitive type, or a record that the field is not in.
inductive Passes (c : Catalog) : Occurrence → Prop
  | leaf {path within type p} : (c.record? type = none) → (Primitive.ofType? type = some p) →
    Passes c ⟨path, within, type⟩
  | record {path within type s} : (c.record? type = some s) → (s.name ∉ within) → Passes c ⟨path, within, type⟩

-- The first field that does not pass, in the order in which fields are met.
structure FirstStop (c : Catalog) (within : List String) (path : FieldPath) (r : RecordDecl) (place : List Nat)
    (o : Occurrence) (e : Problem) : Prop where
  occurs : c.Occurs within path r place o
  stops  : c.Stops o e
  passed : ∀ earlier < place, ∀ o', c.Occurs within path r earlier o' → c.Passes o'

variable {c : Catalog} {project : String} {o : Occurrence} {e e' : Problem}

theorem Stops.unique (h : c.Stops o e) (h' : c.Stops o e') : e = e' := by
  cases h <;> cases h' <;> simp_all

theorem Passes.not_stops (h : c.Passes o) : ¬c.Stops o e := by
  intro h'
  cases h <;> cases h' <;> simp_all

-- How a field can lead to a problem: it stops the expansion, or something in its record does.
def Fails (c : Catalog) {visiting : List String}
    (enter : (r : RecordDecl) → r.name ∈ c.names → r.name ∉ visiting → FieldPath →
      Except Problem (Fields Leaf))
    (path : FieldPath) (slot : Ident × TypeExpr) (e : Problem) : Prop :=
  c.Stops ⟨path.child slot.1.name, visiting, slot.2⟩ e ∨
    ∃ s hn hv, c.record? slot.2 = some s ∧ enter s hn hv (path.child slot.1.name) = .error e

section Slots

variable {visiting : List String} {path : FieldPath} {slots : List (Ident × TypeExpr)}
  {enter : (r : RecordDecl) → r.name ∈ c.names → r.name ∉ visiting → FieldPath →
    Except Problem (Fields Leaf)}

theorem expandSlots_cons_eq_error {slot : Ident × TypeExpr}
    (h : c.expandSlots project visiting enter path (slot :: slots) = .error e) :
    c.Fails enter path slot e ∨
      (c.Replaced enter path slot ∧ c.expandSlots project visiting enter path slots = .error e) := by
  obtain ⟨name, type⟩ := slot
  cases hr : c.record? type
  case none =>
    rw [expandSlots_of_none hr] at h
    cases hp : Primitive.ofType? type <;> simp only [hp] at h
    case none =>
      cases h
      exact .inl (.inl (.unsupported hr hp))
    case some p =>
      obtain h | ⟨_, _, h⟩ := bind_eq_error.mp h
      case inl => exact .inr ⟨.inr ⟨hr, by simp [hp]⟩, h⟩
      case inr => cases h
  case some s =>
    rw [expandSlots_of_record hr] at h
    split at h
    case isTrue hv =>
      cases h
      exact .inl (.inl (.recursive hr hv))
    case isFalse hv =>
      obtain he | ⟨inner, he, h⟩ := bind_eq_error.mp h
      case inl => exact .inl (.inr ⟨s, _, hv, hr, he⟩)
      case inr =>
        obtain h | ⟨_, _, h⟩ := bind_eq_error.mp h
        case inl => exact .inr ⟨.inl ⟨s, _, hv, inner, hr, he⟩, h⟩
        case inr => cases h

theorem slot_of_expandSlots_eq_error (h : c.expandSlots project visiting enter path slots = .error e) :
    ∃ before slot after, slots = before ++ slot :: after ∧
      (∀ b ∈ before, c.Replaced enter path b) ∧ c.Fails enter path slot e := by
  induction slots
  case nil => cases h
  case cons slot slots hi =>
    obtain hf | ⟨hr, h⟩ := expandSlots_cons_eq_error h
    case inl => exact ⟨[], slot, slots, rfl, nofun, hf⟩
    case inr =>
      obtain ⟨before, slot', after, rfl, hb, hf⟩ := hi h
      exact ⟨slot :: before, slot', after, rfl, List.forall_mem_cons.mpr ⟨hr, hb⟩, hf⟩

end Slots

-- Enters the records of fields, as the expansion of a record does.
def entering (c : Catalog) (project : String) (visiting : List String) (s : RecordDecl) (_ : s.name ∈ c.names)
    (_ : s.name ∉ visiting) (path : FieldPath) : Except Problem (Fields Leaf) :=
  c.expand project (visiting ++ [s.name]) path s

theorem expand_eq {visiting : List String} {path : FieldPath} {r : RecordDecl} :
    c.expand project visiting path r = c.expandSlots project visiting (c.entering project visiting) path r.slots := by
  rw [expand]
  rfl

variable {visiting : List String} {path : FieldPath} {r : RecordDecl} {place : List Nat}

-- Nothing that is met from a field that has been replaced is in the way.
theorem passes_of_replaced (ho : c.Occurs visiting path r place o)
    (h : ∀ index ∈ place.head?, ∀ slot, r.slots[index]? = some slot →
      c.Replaced (c.entering project visiting) path slot) : c.Passes o := by
  induction ho
  case here hs =>
    obtain ⟨s, _, hv, _, hr, _⟩ | ⟨hr, hp⟩ := h _ rfl _ hs
    case inl => exact .record hr hv
    case inr =>
      obtain ⟨p, hp⟩ := Option.isSome_iff_exists.mp hp
      exact .leaf hr hp
  case inside hs hr _ hi =>
    obtain ⟨s, _, _, _, hr', he⟩ | ⟨hr', -⟩ := h _ rfl _ hs
    case inr => cases hr.symm.trans hr'
    case inl =>
      cases hr.symm.trans hr'
      rw [entering, expand_eq] at he
      exact hi fun index _ slot hs => slot_of_expandSlots he (List.mem_of_getElem? hs)

theorem exists_firstStop (h : c.expand project visiting path r = .error e) :
    ∃ place o, c.FirstStop visiting path r place o e := by
  induction visiting, path, r using expand.induct c
  case case1 visiting path r hi =>
    rw [expand_eq] at h
    obtain ⟨before, ⟨name, type⟩, after, hs, hb, hf⟩ := slot_of_expandSlots_eq_error h
    have hslot : r.slots[before.length]? = some (name, type) := by simp [hs]
    have passed {index rest o} (hlt : index < before.length)
        (ho : c.Occurs visiting path r (index :: rest) o) : c.Passes o := by
      refine passes_of_replaced ho fun _ hm slot hg => hb slot ?_
      cases hm
      rw [hs, List.getElem?_append_left hlt] at hg
      exact List.mem_of_getElem? hg
    obtain hp | ⟨s, hn, hv, hr, he⟩ := hf
    case inl =>
      refine ⟨[before.length], _, .here hslot, hp, fun earlier hlt o ho => ?_⟩
      cases earlier
      case nil => exact absurd rfl ho.ne_nil
      case cons =>
        cases List.cons_lt_cons_iff.mp hlt
        case inl hlt => exact passed hlt ho
        case inr hlt => exact absurd hlt.right (List.not_lt_nil _)
    case inr =>
      -- The field passes, and whatever is met before the stop in its record.
      obtain ⟨inner, o, hf⟩ := hi s hn hv (path.child name.name) he
      refine ⟨before.length :: inner, o, .inside hslot hr hf.occurs, hf.stops, fun earlier hlt o' ho => ?_⟩
      cases earlier
      case nil => exact absurd rfl ho.ne_nil
      case cons =>
        obtain hlt' | ⟨rfl, hlt'⟩ := List.cons_lt_cons_iff.mp hlt
        case inl => exact passed hlt' ho
        case inr =>
          clear hlt
          cases ho
          case here hg =>
            cases hslot.symm.trans hg
            exact .record hr hv
          case inside hr' hg ho =>
            cases hslot.symm.trans hg
            cases hr.symm.trans hr'
            exact hf.passed _ hlt' _ ho

theorem passes_of_expand {t : Fields Leaf} (h : c.expand project visiting path r = .ok t)
    (ho : c.Occurs visiting path r place o) : c.Passes o := by
  rw [expand_eq] at h
  exact passes_of_replaced ho fun _ _ _ hs => slot_of_expandSlots h (List.mem_of_getElem? hs)

-- There is only one field that is the first.
theorem FirstStop.unique {place' : List Nat} {o' : Occurrence} (h : c.FirstStop visiting path r place o e)
    (h' : c.FirstStop visiting path r place' o' e') : e = e' := by
  obtain hlt | rfl | hlt := lt_trichotomy place place'
  case inl => exact absurd h.stops (h'.passed _ hlt _ h.occurs).not_stops
  case inr.inl =>
    cases h.occurs.unique h'.occurs
    exact h.stops.unique h'.stops
  case inr.inr => exact absurd h'.stops (h.passed _ hlt _ h'.occurs).not_stops

theorem expand_eq_error :
    c.expand project visiting path r = .error e ↔ ∃ place o, c.FirstStop visiting path r place o e := by
  refine ⟨exists_firstStop, ?mpr⟩
  case mpr =>
    rintro ⟨place, o, hf⟩
    cases h : c.expand project visiting path r
    case ok => exact absurd hf.stops (passes_of_expand h hf.occurs).not_stops
    case error =>
      obtain ⟨_, _, hf'⟩ := exists_firstStop h
      rw [hf.unique hf']

-- A record of the catalog cannot be flattened if and only if a field that is met on the way down stops that, and
-- the first one of these is what is reported.
theorem flatten_stops_at_first {root : String} (hr : c.get? root = some r) :
    c.flatten root project = .error e ↔ ∃ place o, c.FirstStop [root] .root r place o e := by
  calc
    _ ↔ c.expand project [root] .root r = .error e := by
      simp only [flatten, hr]
      exact bind_pure_eq_error
    _ ↔ _ := expand_eq_error

def peer : RecordDecl where
  ident  := .plain "Peer"
  fields := [
    ⟨[main], plainType server.ident⟩,
    ⟨[spare], plainType (.plain "Mesh")⟩]

-- The field behind the peer has no supported type either, but is only met later.
def mesh : RecordDecl where
  ident  := .plain "Mesh"
  fields := [
    ⟨[main], plainType peer.ident⟩,
    ⟨[spare], plainType (.plain "i128")⟩]

def meshes : Catalog :=
  ((empty.insert server).insert peer).insert mesh

theorem flatten_meshes :
    meshes.get? "Mesh" = some mesh ∧
    meshes.flatten "Mesh" "APP" = .error (.recursiveRecord "Mesh" "main.spare") ∧
    ∃ place o, meshes.FirstStop ["Mesh"] .root mesh place o (.recursiveRecord "Mesh" "main.spare") := by
  have hr : meshes.get? "Mesh" = some mesh := by rfl
  have he : meshes.flatten "Mesh" "APP" = .error (.recursiveRecord "Mesh" "main.spare") :=
    (bind_pure_eq_error (f := fun _ => ())).mp (by decide +kernel)
  exact ⟨hr, he, (flatten_stops_at_first hr).mp he⟩

end Catalog
end EnvConfig
