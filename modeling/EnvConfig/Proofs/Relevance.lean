import EnvConfig.Proofs.Generation
import EnvConfig.Proofs.Layout
import EnvConfig.Proofs.Nesting
import Mathlib.Data.List.Induction
import Mathlib.Data.List.Perm.Basic

-- What is generated for a record depends on the records in it alone, so that it makes no difference what else
-- a file declares, nor in which order.

namespace EnvConfig

open Source Relation

namespace Catalog

variable {c d : Catalog} {project : String}

-- A type of a field in a record, at any depth, is written by this name.
def Mentions (c : Catalog) (r : RecordDecl) (name : String) : Prop :=
  ∃ s, ReflTransGen c.Nests r s ∧ ∃ slot ∈ s.slots, slot.2.name? = some name

theorem Mentions.nested {r s : RecordDecl} {name : String} (hn : c.Nests r s) (h : c.Mentions s name) :
    c.Mentions r name :=
  have ⟨u, hu, hm⟩ := h
  ⟨u, .head hn hu, hm⟩

theorem mem_records_of_reach {r s : RecordDecl} (hr : r ∈ c.records) (h : ReflTransGen c.Nests r s) :
    s ∈ c.records := by
  cases h.cases_tail
  case inl he => exact he ▸ hr
  case inr h =>
    obtain ⟨_, _, _, _, hs⟩ := h
    exact mem_of_get? (get?_name_of_record? hs)

section Slots

variable {visiting : List String} {path : FieldPath} {name : Ident} {type : TypeExpr}
  {slots : List (Ident × TypeExpr)} {r : RecordDecl}
  {enter : (r : RecordDecl) → r.name ∈ c.names → r.name ∉ visiting → FieldPath →
    Except Problem (Fields Leaf)}
  {enter' : (r : RecordDecl) → r.name ∈ d.names → r.name ∉ visiting → FieldPath →
    Except Problem (Fields Leaf)}

theorem expandSlots_of_record (h : c.record? type = some r) :
    c.expandSlots project visiting enter path ((name, type) :: slots) =
      if hv : r.name ∈ visiting then .error (.recursiveRecord r.name (path.child name.name).dotted)
      else do
        let inner ← enter r (name_mem_names_of_record? h) hv (path.child name.name)
        return .record name r.ident inner (← c.expandSlots project visiting enter path slots) := by
  rw [expandSlots]
  split
  case h_1 s hs =>
    cases h.symm.trans hs
    rfl
  case h_2 hs => cases h.symm.trans hs

theorem expandSlots_of_none (h : c.record? type = none) :
    c.expandSlots project visiting enter path ((name, type) :: slots) =
      match Primitive.ofType? type with
      | none   => .error (.unsupportedType type.display (path.child name.name).dotted)
      | some p => do
        let leaf := Leaf.ofPath project (path.child name.name) type p
        return .leaf name leaf (← c.expandSlots project visiting enter path slots) := by
  rw [expandSlots]
  split
  case h_1 s hs => cases h.symm.trans hs
  case h_2 => rfl

-- Fields are replaced in the same way in two catalogs in which their types name the same records.
theorem expandSlots_congr (hr : ∀ slot ∈ slots, c.record? slot.2 = d.record? slot.2)
    (he : ∀ slot ∈ slots, ∀ r, c.record? slot.2 = some r →
      ∀ hc hd hv child, enter r hc hv child = enter' r hd hv child) :
    c.expandSlots project visiting enter path slots = d.expandSlots project visiting enter' path slots := by
  induction slots
  case nil => rfl
  case cons slot slots hi =>
    obtain ⟨name, type⟩ := slot
    have ⟨hr, hrs⟩ := List.forall_mem_cons.mp hr
    have ⟨he, hes⟩ := List.forall_mem_cons.mp he
    have hi := hi hrs hes
    cases hc : c.record? type
    case none => rw [expandSlots_of_none hc, expandSlots_of_none (hr ▸ hc), hi]
    case some r =>
      have hd := hr ▸ hc
      have he := he r hc (name_mem_names_of_record? hc) (name_mem_names_of_record? hd)
      simp only [expandSlots_of_record hc, expandSlots_of_record hd, hi, he]

end Slots

theorem record?_congr {t : TypeExpr} (h : ∀ name, t.name? = some name → c.get? name = d.get? name) :
    c.record? t = d.record? t :=
  Option.bind_congr h

-- Both expansions enter the same records, as long as these are the same wherever the first one comes.
theorem expand_congr {visiting : List String} {path : FieldPath} {r : RecordDecl}
    (h : ∀ name, c.Mentions r name → c.get? name = d.get? name) :
    c.expand project visiting path r = d.expand project visiting path r := by
  induction visiting, path, r using expand.induct c
  case case1 visiting path r hi =>
    rw [expand, expand]
    refine expandSlots_congr (fun slot hs => record?_congr fun name hn => ?_) ?_
    case refine_1 => exact h name ⟨r, .refl, slot, hs, hn⟩
    case refine_2 =>
      intro slot hs s hr hc hd hv child
      exact hi s hc hv child fun name hm => h name (hm.nested ⟨slot, hs, hr⟩)

theorem flatten_congr {root : String} {r : RecordDecl} (hr : c.get? root = some r)
    (hd : d.get? root = some r) (h : ∀ name, c.Mentions r name → c.get? name = d.get? name) :
    c.flatten root project = d.flatten root project := by
  simp only [flatten, hr, hd, expand_congr h]

theorem find?_insertInto {r : RecordDecl} {rs : List RecordDecl} {name : String} :
    (insertInto r rs).find? (·.name == name) =
      if r.name = name then some r else rs.find? (·.name == name) := by
  have hc (s : RecordDecl) (rs : List RecordDecl) : (s :: rs).find? (·.name == name) =
      if s.name = name then some s else rs.find? (·.name == name) := by
    by_cases hs : s.name = name <;> simp [hs]
  induction rs
  case nil => exact hc r []
  case cons s rs hi =>
    rw [insertInto]
    split
    case isTrue => exact hc r (s :: rs)
    case isFalse hnlt =>
      split
      case isTrue hlt =>
        have hne : s.name ≠ r.name := fun he => String.lt_irrefl _ (he ▸ hlt)
        rw [hc, hi, hc]
        grind
      case isFalse hngt =>
        have he : s.name = r.name := String.le_antisymm (String.not_lt.mp hnlt) (String.not_lt.mp hngt)
        rw [hc, hc, he]
        grind

theorem get?_insert {r : RecordDecl} {name : String} :
    (c.insert r).get? name = if r.name = name then some r else c.get? name :=
  find?_insertInto

-- Among records with distinct names, there is one to be found by its name.
theorem find?_eq_some {rs : List RecordDecl} (hn : (rs.map (·.name)).Nodup) {name : String}
    {r : RecordDecl} : rs.find? (·.name == name) = some r ↔ r ∈ rs ∧ r.name = name := by
  constructor
  case mp => exact fun h => ⟨List.mem_of_find?_eq_some h, by simpa using List.find?_some h⟩
  case mpr =>
    rintro ⟨hr, rfl⟩
    have hf := List.find?_isSome (p := (·.name == r.name)).mpr ⟨r, hr, by simp⟩
    obtain ⟨s, hs⟩ := Option.isSome_iff_exists.mp hf
    have he : s.name = r.name := by simpa using List.find?_some hs
    rw [hs, List.inj_on_of_nodup_map hn (List.mem_of_find?_eq_some hs) hr he]

theorem names_nodup (c : Catalog) : (c.records.map (·.name)).Nodup :=
  List.pairwise_map.mpr <| c.sorted.imp fun {r s} (h : r.name < s.name) (he : r.name = s.name) =>
    String.lt_irrefl _ (he ▸ h)

theorem get?_eq_some {name : String} {r : RecordDecl} :
    c.get? name = some r ↔ r ∈ c.records ∧ r.name = name :=
  find?_eq_some c.names_nodup

-- A catalog is what can be found in it.
theorem ext_get? (h : ∀ name, c.get? name = d.get? name) : c = d := by
  have hm (r : RecordDecl) : r ∈ c.records ↔ r ∈ d.records := by
    simpa [get?_eq_some] using congrArg (· = some r) (h r.name)
  have hp : c.records.Perm d.records :=
    (List.perm_ext_iff_of_nodup c.names_nodup.of_map d.names_nodup.of_map).mpr hm
  have hr : c.records = d.records := by
    refine hp.eq_of_pairwise ?_ c.sorted d.sorted
    exact fun _ _ _ _ h h' => absurd (String.lt_trans h h') (String.lt_irrefl _)
  cases c
  cases d
  cases hr
  rfl

-- The records among the items of a file.
def declared (items : List Item) : List RecordDecl :=
  items.filterMap fun
    | .record r => some r
    | .other    => none

-- A record is found if no later one has its name.
theorem get?_ofItems {items : List Item} {name : String} :
    (ofItems items).get? name = (declared items).reverse.find? (·.name == name) := by
  induction items using List.reverseRecOn
  case nil => rfl
  case append_singleton items item hi =>
    rw [ofItems, List.foldl_append, ← ofItems]
    cases item
    case record r => by_cases hr : r.name = name <;> simp [get?_insert, hi, declared, hr]
    case other => simp [hi, declared]

theorem get?_ofItems_eq_some {items : List Item} (hn : ((declared items).map (·.name)).Nodup) {name : String}
    {r : RecordDecl} : (ofItems items).get? name = some r ↔ r ∈ declared items ∧ r.name = name := by
  rw [get?_ofItems, find?_eq_some (by simpa [List.map_reverse] using hn), List.mem_reverse]

-- Further records matter to their own names alone.
theorem get?_ofItems_congr {items items' : List Item} {extra : List RecordDecl}
    (hp : (declared items').Perm (declared items ++ extra)) (hn : ((declared items').map (·.name)).Nodup)
    {name : String} (he : ∀ e ∈ extra, e.name ≠ name) :
    (ofItems items).get? name = (ofItems items').get? name := by
  have hi : ((declared items).map (·.name)).Nodup := by
    have hn := (hp.map (·.name)).nodup_iff.mp hn
    rw [List.map_append] at hn
    exact hn.of_append_left
  refine Option.ext fun r => ?_
  rw [get?_ofItems_eq_some hi, get?_ofItems_eq_some hn, hp.mem_iff, List.mem_append]
  constructor
  case mp => exact fun ⟨hr, h⟩ => ⟨.inl hr, h⟩
  case mpr => exact fun ⟨hr, h⟩ => ⟨hr.resolve_right fun hr => he r hr h, h⟩

-- What is generated for a record of a catalog.
def generate (c : Catalog) (root project : String) (o : ModuleOptions) : Except Problem Generated := do
  let flattened ← c.flatten root project
  Uniqueness.check flattened.leaves
  let module ← Module.render project flattened o
  return ⟨root, module, flattened.leaves⟩

theorem generate_eq_generate (g : Generator) (name source : String) : g.generate name source = (do
    let project ← g.project?
    let options ← g.options
    let catalog ← Generator.catalog name source
    catalog.generate g.root project options) :=
  rfl

-- Two catalogs in which a record mentions the same records cannot be told apart by what is generated for it.
-- So neither the order of the items of a file matters, nor those that are no records, nor records that are
-- not mentioned.
theorem generate_depends_on_mentioned (root : String) :
    (∀ (c d : Catalog) (r : RecordDecl), c.get? root = some r → d.get? root = some r →
      (∀ name, c.Mentions r name → c.get? name = d.get? name) →
      ∀ project, c.flatten root project = d.flatten root project ∧
        ∀ o, c.generate root project o = d.generate root project o) ∧
    (∀ items items' : List Item, (declared items').Perm (declared items) →
      ((declared items).map (·.name)).Nodup → ofItems items' = ofItems items) ∧
    (∀ (items items' : List Item) (extra : List RecordDecl) (r : RecordDecl),
      (declared items').Perm (declared items ++ extra) → ((declared items').map (·.name)).Nodup →
      (ofItems items).get? root = some r → (∀ e ∈ extra, ¬(ofItems items).Mentions r e.name) →
      ∀ project, (ofItems items').flatten root project = (ofItems items).flatten root project ∧
        ∀ o, (ofItems items').generate root project o = (ofItems items).generate root project o) := by
  have catalogs (c d : Catalog) (r : RecordDecl) (hc : c.get? root = some r) (hd : d.get? root = some r)
      (h : ∀ name, c.Mentions r name → c.get? name = d.get? name) (project : String) :
      c.flatten root project = d.flatten root project ∧
        ∀ o, c.generate root project o = d.generate root project o := by
    have hf : c.flatten root project = d.flatten root project := flatten_congr hc hd h
    exact ⟨hf, fun o => by simp only [generate, hf]⟩
  refine ⟨catalogs, ?order, ?more⟩
  case order =>
    intro items items' hp hn
    have hp' : (declared items').Perm (declared items ++ []) := by simpa using hp
    have hn' : ((declared items').map (·.name)).Nodup := (hp.map (·.name)).nodup_iff.mpr hn
    exact (ext_get? fun name => get?_ofItems_congr hp' hn' (by simp)).symm
  case more =>
    intro items items' extra r hp hn hr he project
    have hm : r ∈ declared items := by
      rw [get?_ofItems] at hr
      exact List.mem_reverse.mp (List.mem_of_find?_eq_some hr)
    have hd : (ofItems items').get? root = some r :=
      (get?_ofItems_eq_some hn).mpr ⟨hp.mem_iff.mpr (List.mem_append_left _ hm), name_of_get? hr⟩
    have ⟨hf, hg⟩ := catalogs (ofItems items) (ofItems items') r hr hd
      (fun name hm => get?_ofItems_congr hp hn fun e hx hne => he e hx (hne ▸ hm)) project
    exact ⟨hf.symm, fun o => (hg o).symm⟩

-- A record that nothing in a cluster mentions.
def backup : RecordDecl where
  ident  := .plain "Backup"
  fields := [⟨[level], plainType (.plain "u128")⟩]

def clusterItems : List Item :=
  [.record cluster, .record server]

theorem cluster_without_backup :
    ((ofItems clusterItems).insert backup).flatten "Cluster" "APP" =
      (ofItems clusterItems).flatten "Cluster" "APP" ∧
    ofItems [.record server, .other, .record cluster] = ofItems clusterItems ∧
    (ofItems [.other, .record backup, .record server, .record cluster]).flatten "Cluster" "APP" =
      (ofItems clusterItems).flatten "Cluster" "APP" := by
  have hn : ((declared clusterItems).map (·.name)).Nodup := by decide
  have hr : (ofItems clusterItems).get? "Cluster" = some cluster :=
    (get?_ofItems_eq_some hn).mpr ⟨.head _, rfl⟩
  have hm : ¬(ofItems clusterItems).Mentions cluster backup.name := by
    rintro ⟨s, hs, slot, hm, he⟩
    have hg := get?_eq_some.mpr ⟨mem_records_of_reach (mem_of_get? hr) hs, rfl⟩
    have hs : s ∈ declared clusterItems := ((get?_ofItems_eq_some hn).mp hg).left
    have ht : ∀ s ∈ declared clusterItems, ∀ slot ∈ s.slots, slot.2.name? ≠ some backup.name := by
      decide
    exact ht s hs slot hm he
  obtain ⟨catalogs, order, more⟩ := generate_depends_on_mentioned "Cluster"
  refine ⟨.symm (catalogs _ _ cluster hr ?_ ?_ "APP").left, ?_, ?_⟩
  case refine_1 => rw [get?_insert, if_neg (by decide), hr]
  case refine_2 =>
    intro name h
    have hne : backup.name ≠ name := fun he => hm (he ▸ h)
    rw [get?_insert, if_neg hne]
  case refine_3 => exact order _ _ (.swap _ _ []) hn
  case refine_4 =>
    have hp : (declared [.other, .record backup, .record server, .record cluster]).Perm
        (declared clusterItems ++ [backup]) := (List.reverse_perm _).symm
    exact (more _ _ _ cluster hp (by decide) hr (by simpa using hm) "APP").left

end Catalog
end EnvConfig
