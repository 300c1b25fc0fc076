import EnvConfig.Module.Names
import EnvConfig.Proofs.Expansion
import EnvConfig.Proofs.NameChars

-- The names of a module's identifiers are those that the leaves ask for: no derived name has anything in it
-- that reading it as an identifier would leave out.

namespace EnvConfig

open Source Text

namespace Naming

-- Of a numeral, a part of a name keeps the character, and of a letter, what its change of case leads to.
theorem of_mem_keep {letter : Char → List Char} {c d : Char} (h : d ∈ keep letter c) :
    isNumeral c ∧ d = c ∨ isLetter c ∧ d ∈ letter c := by
  unfold keep at h
  split at h
  case isTrue hn => exact .inl ⟨hn, List.mem_singleton.mp h⟩
  case isFalse =>
    split at h
    case isTrue hl => exact .inr ⟨hl, h⟩
    case isFalse => cases h

-- A name all of whose characters are solid.
def IsSolid (name : String) : Prop :=
  ∀ c ∈ name.toList, Scan.Solid c

namespace IsSolid

theorem of_all {name : String} (h : name.toList.all (Scan.Solid.isSolid ·.toNat)) : IsSolid name :=
  fun c hc => .of_isSolid (List.all_eq_true.mp h c hc)

theorem append {name name' : String} (h : IsSolid name) (h' : IsSolid name') :
    IsSolid (name ++ name') := by
  intro c hc
  cases List.mem_append.mp (String.toList_append ▸ hc)
  case inl hc => exact h c hc
  case inr hc => exact h' c hc

theorem join {names : List String} (h : ∀ n ∈ names, IsSolid n) : IsSolid (.join names) := by
  intro c hc
  obtain ⟨n, hn, hc⟩ := List.mem_flatMap.mp (String.toList_join ▸ hc)
  exact h n hn c hc

theorem intercalate {sep : String} {names : List String} (hs : IsSolid sep) (h : ∀ n ∈ names, IsSolid n) :
    IsSolid (sep.intercalate names) := by
  induction names
  case nil => exact of_all (String.intercalate_nil ▸ by decide)
  case cons name names hi =>
    cases names
    case nil => simpa using h
    case cons name' names =>
      simp only [String.intercalate_cons_cons]
      exact ((h _ (.head _)).append hs).append <| hi fun n hn => h n (.tail _ hn)

theorem keep {letter : Char → List Char} {c d : Char}
    (hl : ∀ {d}, Scan.Solid c → d ∈ letter c → Scan.Solid d) (h : d ∈ Naming.keep letter c) :
    Scan.Solid d := by
  obtain ⟨hn, rfl⟩ | ⟨hc, hd⟩ := of_mem_keep h
  case inl => exact .of_isNumeral hn
  case inr => exact hl (.of_isLetter hc) hd

theorem screaming (part : String) : IsSolid (screaming part) := by
  intro d hd
  obtain ⟨c, _, hd⟩ := List.mem_flatMap.mp (String.toList_ofList ▸ hd)
  exact keep .of_mem_toUpper hd

theorem capitalized (part : String) : IsSolid (capitalized part) := by
  unfold Naming.capitalized
  split
  case h_1 => exact of_all (by decide)
  case h_2 =>
    intro d hd
    cases List.mem_append.mp (String.toList_ofList ▸ hd)
    case inl hd => exact keep .of_mem_toUpper hd
    case inr hd =>
      obtain ⟨c, _, hd⟩ := List.mem_flatMap.mp hd
      exact keep .of_mem_toLower hd

theorem variableName (project : String) (path : FieldPath) : IsSolid (variableName project path) :=
  intercalate (of_all (by decide)) <| List.forall_mem_map.mpr fun part _ => screaming part

theorem sentinelBase (project : String) (path : FieldPath) : IsSolid (sentinelBase project path) :=
  append (of_all (by decide)) <| join <| List.forall_mem_map.mpr fun part _ => capitalized part

theorem missingName (project : String) (path : FieldPath) : IsSolid (missingName project path) :=
  (sentinelBase project path).append (of_all (by decide))

theorem invalidName (project : String) (path : FieldPath) : IsSolid (invalidName project path) :=
  (sentinelBase project path).append (of_all (by decide))

theorem constantName {key : String} (h : IsSolid key) : IsSolid (constantName key) :=
  h.append (of_all (by decide))

-- The words of a source text are made of nothing else.
theorem ident (i : Ident) : IsSolid i.name :=
  fun _ hc => .of_isWord i.word hc

end IsSolid

theorem constantName_inj {key key' : String} (h : constantName key = constantName key') : key = key' :=
  (String.append_left_inj _).mp h

end Naming

-- A leaf whose names are all solid.
structure Leaf.Nameable (l : Leaf) : Prop where
  key     : Naming.IsSolid l.key
  binding : Naming.IsSolid l.binding
  missing : Naming.IsSolid l.missing
  invalid : ∀ name ∈ l.invalid, Naming.IsSolid name

theorem Catalog.Expansion.nameable {c : Catalog} {project : String} {slots : List (Ident × TypeExpr)}
    {t : Fields Leaf} {l : Leaf} (e : Expansion c project .root slots t) (h : l ∈ t.contents) :
    l.Nameable := by
  have ⟨hl, _⟩ := e.leaf_eq h
  refine ⟨?key, ?binding, ?missing, ?invalid⟩
  case key     => rw [hl]; exact .variableName _ _
  case missing => rw [hl]; exact .missingName _ _
  case invalid =>
    rw [hl]
    intro name hn
    simp only [Leaf.ofPath, Option.mem_def, Option.ite_none_right_eq_some, Option.some.injEq] at hn
    exact hn.right ▸ .invalidName _ _
  case binding =>
    obtain ⟨names, _, hn⟩ := e.segments_eq h
    refine .append (.of_all (by decide)) <| .intercalate (.of_all (by decide)) ?_
    simp only [hn, FieldPath.segments_root, List.nil_append, List.forall_mem_map]
    exact fun i _ => .ident i

theorem identifier_eq_ok {name field id : String} (hn : Naming.IsSolid name)
    (h : identifier name field = .ok id) : id = name := by
  unfold identifier at h
  split at h
  case h_1 hi => exact Except.ok.inj h ▸ text_of_readIdent hn hi
  case h_2 => cases h

-- The identifiers of a leaf, if they are ones.
def Leaf.names (l : Leaf) : LeafNames where
  constant := Naming.constantName l.key
  binding  := l.binding
  missing  := l.missing
  invalid  := l.invalid

theorem LeafNames.ofLeaf_eq_ok {l : Leaf} {n : LeafNames} (hl : l.Nameable) (h : ofLeaf l = .ok n) :
    n = l.names := by
  simp only [ofLeaf, bind_eq_ok, pure_eq_ok] at h
  obtain ⟨constant, hc, binding, hb, missing, hm, invalid, hi, rfl⟩ := h
  have hc := identifier_eq_ok hl.key.constantName hc
  have hb := identifier_eq_ok hl.binding hb
  have hm := identifier_eq_ok hl.missing hm
  have hi : invalid = l.invalid := by
    cases hn : l.invalid <;> rw [hn] at hi
    case none => exact (pure_eq_ok.mp hi).symm
    case some name =>
      obtain ⟨id, h, rfl⟩ := map_eq_ok.mp hi
      exact congrArg some <| identifier_eq_ok (hl.invalid name hn) h
  rw [hc, hb, hm, hi, Leaf.names]

theorem ModuleNames.leaves_eq {f : Flattened} {n : ModuleNames} (hl : ∀ l ∈ f.leaves, l.Nameable)
    (h : ofFlattened f = .ok n) : n.leaves = f.leaves.map (·.names) := by
  simp only [ofFlattened, bind_eq_ok, pure_eq_ok] at h
  obtain ⟨leaves, hn, _, _, _, _, _, _, rfl⟩ := h
  exact eq_map_of_mapM_eq_ok (fun l hm _ hn => LeafNames.ofLeaf_eq_ok (hl l hm) hn) hn

end EnvConfig
