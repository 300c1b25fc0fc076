import EnvConfig.FileTree.Basic
import EnvConfig.Proofs.Results
import EnvConfig.Proofs.Utf8
import Mathlib.Data.List.Infix

-- What reading and writing can do to a file tree: files get a new content or are new, directories are new,
-- and everything else stays.

namespace EnvConfig

namespace FilePath

-- The paths that are made of the first of some steps.
def fronts (fromRoot : Bool) (steps : List Step) : List FilePath :=
  steps.inits.map (ofSteps fromRoot)

-- The paths on the way of a path, up to that of its directory.
def ancestors (p : FilePath) : List FilePath :=
  fronts p.fromRoot p.essential.dropLast

theorem mem_fronts {p : FilePath} {fromRoot : Bool} {steps : List Step} :
    p ∈ fronts fromRoot steps ↔ ∃ ss, ss <+: steps ∧ ofSteps fromRoot ss = p := by
  simp [fronts, List.mem_inits]

end FilePath

namespace FileTree

variable {t t' t'' : FileTree} {cwd k l m : Location} {ls ms : List Location} {e : Entry} {p : FilePath}
  {octets : List UInt8}

theorem lookup_filter_ne {es : List (Location × Entry)} :
    (es.filter (·.1 ≠ l)).lookup m = if m = l then none else es.lookup m := by
  induction es
  case nil => simp
  case cons a es hi =>
    obtain ⟨k, e⟩ := a
    rw [List.lookup_cons]
    by_cases hk : k = l
    case pos =>
      rw [List.filter_cons_of_neg (by simpa using hk), hi]
      split
      case isTrue => rfl
      case isFalse hm => rw [beq_false_of_ne (hk ▸ hm)]
    case neg =>
      rw [List.filter_cons_of_pos (by simpa using hk), List.lookup_cons, hi]
      by_cases hm : m = k
      case pos => simp [hm, hk]
      case neg => rw [beq_false_of_ne hm]

theorem get?_put (hl : l ≠ []) : (t.put l e).get? m = if m = l then some e else t.get? m := by
  rw [get?, put, List.lookup_append, lookup_filter_ne, get?]
  by_cases hm : m = l
  case pos => simp [hm, hl]
  case neg => simp [hm, List.lookup_cons, beq_false_of_ne hm]

-- A later tree. At some places there is a file now, with a new content or new itself. Apart from these only
-- directories are new, and everything else is as it was.
structure Becomes (t : FileTree) (files : List Location) (t' : FileTree) : Prop where
  file  : ∀ l ∈ files, t.get? l ≠ some .directory ∧ ∃ octets, t'.get? l = some (.file octets)
  other : ∀ l ∉ files, t'.get? l = t.get? l ∨ (t.get? l = none ∧ t'.get? l = some .directory)

namespace Becomes

theorem refl : t.Becomes [] t where
  file  := nofun
  other := fun _ _ => .inl rfl

theorem get?_eq (h : t.Becomes ls t') (hl : l ∉ ls) (he : t.get? l = some e) : t'.get? l = some e :=
  (h.other l hl).elim (·.trans he) fun ⟨hn, _⟩ => nomatch hn.symm.trans he

theorem directory (h : t.Becomes ls t') (hd : t.get? l = some .directory) : t'.get? l = some .directory :=
  h.get?_eq (fun hl => (h.file l hl).left hd) hd

theorem trans (h : t.Becomes ls t') (h' : t'.Becomes ms t'') : t.Becomes (ls ++ ms) t'' where
  file l hl := by
    by_cases hm : l ∈ ms
    case pos =>
      have ⟨hd, ho⟩ := h'.file l hm
      exact ⟨fun hn => hd (h.directory hn), ho⟩
    case neg =>
      have ⟨hd, octets, ho⟩ := h.file l ((List.mem_append.mp hl).resolve_right hm)
      exact ⟨hd, octets, h'.get?_eq hm ho⟩
  other l hl := by
    rw [List.mem_append, not_or] at hl
    have ho := h.other l hl.left
    have ho' := h'.other l hl.right
    grind

theorem isSome (h : t.Becomes ls t') (hs : (t.get? l).isSome) : (t'.get? l).isSome := by
  obtain ⟨e, he⟩ := Option.isSome_iff_exists.mp hs
  by_cases hl : l ∈ ls
  case pos =>
    have ⟨_, _, ho⟩ := h.file l hl
    simp [ho]
  case neg => simp [h.get?_eq hl he]

end Becomes

theorem isDirectory_iff : t.isDirectory l ↔ t.get? l = some .directory := by
  simp [isDirectory]

theorem next_down_eq_ok {name : String} :
    t.next l (.down name) = .ok m ↔
      name.utf8ByteSize ≤ longestName ∧ (t.get? (l ++ [name])).isSome ∧ m = l ++ [name] := by
  rw [next]
  split
  case isTrue h => simp; omega
  case isFalse h =>
    split
    case isTrue hs => simp [hs, eq_comm]; omega
    case isFalse hs => simp [hs]

theorem follow_cons_eq_ok {s : Step} {ss : List Step} :
    t.follow l (s :: ss) = .ok m ↔
      t.get? l = some .directory ∧ ∃ k, t.next l s = .ok k ∧ t.follow k ss = .ok m := by
  rw [follow, ← isDirectory_iff]
  split
  case isTrue hd => cases t.next l s <;> simp [hd]
  case isFalse hd => simp [hd]

theorem follow_append_eq_ok {ss ss' : List Step} :
    t.follow l (ss ++ ss') = .ok m ↔ ∃ k, t.follow l ss = .ok k ∧ t.follow k ss' = .ok m := by
  induction ss generalizing l
  case nil => simp [follow]
  case cons s ss hi =>
    simp only [List.cons_append, follow_cons_eq_ok, hi]
    grind

-- What has been found once is still there.
theorem Becomes.next {s : Step} (h : t.Becomes ls t') (hn : t.next l s = .ok m) : t'.next l s = .ok m := by
  cases s
  case here => exact hn
  case up   => exact hn
  case down =>
    have ⟨hl, hs, hm⟩ := next_down_eq_ok.mp hn
    exact next_down_eq_ok.mpr ⟨hl, h.isSome hs, hm⟩

theorem Becomes.follow {ss : List Step} (h : t.Becomes ls t') (hf : t.follow l ss = .ok m) :
    t'.follow l ss = .ok m := by
  induction ss generalizing l
  case nil => exact hf
  case cons s ss hi =>
    have ⟨hd, k, hn, hf⟩ := follow_cons_eq_ok.mp hf
    exact follow_cons_eq_ok.mpr ⟨h.directory hd, k, h.next hn, hi hf⟩

theorem find_eq_ok :
    t.find cwd p = .ok (l, e) ↔ checkPath p = .ok () ∧ t.follow (start cwd p) p.steps = .ok l ∧
      t.get? l = some e ∧ (p.closed → e = .directory) := by
  simp only [find, bind_eq_ok]
  constructor
  case mp =>
    rintro ⟨_, hc, k, hf, h⟩
    split at h
    case h_1       => cases h
    case h_2 hg    =>
      cases pure_eq_ok.mp h
      exact ⟨hc, hf, hg, fun _ => rfl⟩
    case h_3 hg    =>
      split at h
      case isTrue     => cases h
      case isFalse hn =>
        cases pure_eq_ok.mp h
        exact ⟨hc, hf, hg, fun hp => absurd hp hn⟩
  case mpr =>
    rintro ⟨hc, hf, hg, he⟩
    refine ⟨(), hc, l, hf, ?_⟩
    cases e <;> simp_all [pure_eq_ok]

-- What is found stays where it is, as long as no file is written there.
theorem Becomes.find (h : t.Becomes ls t') (hl : l ∉ ls) (hf : t.find cwd p = .ok (l, e)) :
    t'.find cwd p = .ok (l, e) := by
  have ⟨hc, hs, hg, hd⟩ := find_eq_ok.mp hf
  exact find_eq_ok.mpr ⟨hc, h.follow hs, h.get?_eq hl hg, hd⟩

theorem isDirectoryAt_iff : t.isDirectoryAt cwd p ↔ ∃ l, t.find cwd p = .ok (l, .directory) := by
  rw [isDirectoryAt]
  split <;> simp_all

-- A text that has been written is what is read.
theorem readText_of_find {text : String} (h : t.find cwd p = .ok (l, .file text.toUTF8.data.toList)) :
    t.readText cwd p = .ok text := by
  simp only [readText, read, h, Text.Utf8.decode?_encode, bind, Except.bind, pure, Except.pure]
  rw [String.ofList_toList]

theorem find_of_readText {text : String} (h : t.readText cwd p = .ok text) :
    ∃ l octets, t.find cwd p = .ok (l, .file octets) := by
  simp only [readText, read, bind_eq_ok] at h
  obtain ⟨_, ⟨⟨l, e⟩, hf, he⟩, _⟩ := h
  cases e
  case directory   => cases he
  case file octets => exact ⟨l, octets, hf⟩

theorem target_of_follow (hc : checkPath p = .ok ()) (hf : t.follow (start cwd p) p.steps.dropLast = .ok k)
    (hd : t.get? k = some .directory) :
    t.target cwd p =
      match p.steps.getLast? with
      | some (.down name) =>
        if name.utf8ByteSize > longestName then .error .invalidFilename else .ok (some (k ++ [name]))
      | _ => .ok none := by
  rw [target, hc, hf]
  exact if_pos (isDirectory_iff.mpr hd)

theorem target_eq_some :
    t.target cwd p = .ok (some l) ↔ checkPath p = .ok () ∧ ∃ k name,
      t.follow (start cwd p) p.steps.dropLast = .ok k ∧ t.get? k = some .directory ∧
      p.steps.getLast? = some (.down name) ∧ name.utf8ByteSize ≤ longestName ∧ l = k ++ [name] := by
  constructor
  case mp =>
    intro h
    simp only [target, bind_eq_ok] at h
    obtain ⟨_, hc, k, hf, h⟩ := h
    split at h
    case isFalse   => cases h
    case isTrue hd =>
      split at h
      case h_2         => cases h
      case h_1 name hs =>
        split at h
        case isTrue     => cases h
        case isFalse hn =>
          cases pure_eq_ok.mp h
          exact ⟨hc, k, name, hf, isDirectory_iff.mp hd, hs, Nat.not_lt.mp hn, rfl⟩
  case mpr =>
    rintro ⟨hc, k, name, hf, hd, hs, hn, rfl⟩
    rw [target_of_follow hc hf hd, hs]
    exact if_neg (Nat.not_lt.mpr hn)

theorem ne_nil_of_target (h : t.target cwd p = .ok (some l)) : l ≠ [] := by
  obtain ⟨_, k, name, _, _, _, _, rfl⟩ := target_eq_some.mp h
  simp

-- What is at the place that a path names is found by the path.
theorem Becomes.find_of_target (h : t.Becomes ls t') (ht : t.target cwd p = .ok (some l))
    (hg : t'.get? l = some e) (he : p.closed → e = .directory) : t'.find cwd p = .ok (l, e) := by
  obtain ⟨hk, k, name, hf, hd, hs, hn, rfl⟩ := target_eq_some.mp ht
  have hsteps : p.steps = p.steps.dropLast ++ [.down name] := (List.dropLast_append_getLast? _ hs).symm
  have hname : t'.next k (.down name) = .ok (k ++ [name]) := next_down_eq_ok.mpr ⟨hn, by simp [hg], rfl⟩
  have hlast : t'.follow k [.down name] = .ok (k ++ [name]) :=
    follow_cons_eq_ok.mpr ⟨h.directory hd, k ++ [name], hname, rfl⟩
  refine find_eq_ok.mpr ⟨hk, ?_, hg, he⟩
  rw [hsteps]
  exact follow_append_eq_ok.mpr ⟨k, h.follow hf, hlast⟩

-- A later tree all of whose new directories are known by paths.
structure Gains (t : FileTree) (cwd : Location) (files : List Location) (paths : List FilePath)
    (t' : FileTree) : Prop extends t.Becomes files t' where
  created : ∀ l, t.get? l = none → t'.get? l = some .directory →
    ∃ p ∈ paths, t'.find cwd p = .ok (l, .directory)

variable {ps qs : List FilePath}

namespace Gains

theorem refl : t.Gains cwd [] ps t where
  toBecomes         := .refl
  created _ hn hd := nomatch hn.symm.trans hd

theorem mono (h : t.Gains cwd ls ps t') (hs : ps ⊆ qs) : t.Gains cwd ls qs t' where
  toBecomes         := h.toBecomes
  created l hn hd :=
    have ⟨p, hp, hf⟩ := h.created l hn hd
    ⟨p, hs hp, hf⟩

theorem trans (h : t.Gains cwd ls ps t') (h' : t'.Gains cwd ms ps t'') :
    t.Gains cwd (ls ++ ms) ps t'' where
  toBecomes         := h.toBecomes.trans h'.toBecomes
  created l hn hd := by
    have hm : l ∉ ms := by
      intro hm
      have ⟨_, _, ho⟩ := h'.file l hm
      cases hd.symm.trans ho
    cases hg : t'.get? l
    case none   => exact h'.created l hg hd
    case some e =>
      obtain rfl : e = .directory := Option.some.inj ((h'.get?_eq hm hg).symm.trans hd)
      have ⟨p, hp, hf⟩ := h.created l hn hg
      exact ⟨p, hp, h'.find hm hf⟩

end Gains

theorem createDirectory_eq_ok :
    t.createDirectory cwd p = .ok t' ↔
      ∃ l, t.target cwd p = .ok (some l) ∧ t.get? l = none ∧ t' = t.put l .directory := by
  simp only [createDirectory, bind_eq_ok]
  constructor
  case mp =>
    rintro ⟨l?, ht, h⟩
    cases l?
    case none => cases h
    case some l =>
      dsimp only at h
      split at h
      case isTrue => cases h
      case isFalse hn => exact ⟨l, ht, by simpa using hn, (pure_eq_ok.mp h).symm⟩
  case mpr =>
    rintro ⟨l, ht, hn, rfl⟩
    exact ⟨some l, ht, by simp [hn, pure_eq_ok]⟩

theorem gains_of_createDirectory (h : t.createDirectory cwd p = .ok t') (hp : p ∈ ps) :
    t.Gains cwd [] ps t' := by
  obtain ⟨l, ht, hn, rfl⟩ := createDirectory_eq_ok.mp h
  have hg {m : Location} : (t.put l .directory).get? m = if m = l then some .directory else t.get? m :=
    get?_put (ne_nil_of_target ht)
  have hb : t.Becomes [] (t.put l .directory) := by
    refine ⟨nofun, fun m _ => ?_⟩
    rw [hg]
    split
    case isTrue hm => exact .inr ⟨hm ▸ hn, rfl⟩
    case isFalse   => exact .inl rfl
  refine ⟨hb, fun m hm hd => ⟨p, hp, ?_⟩⟩
  rw [hg] at hd
  split at hd
  case isTrue he => exact he ▸ hb.find_of_target ht (by rw [hg, if_pos rfl]) fun _ => rfl
  case isFalse   => cases hm.symm.trans hd

theorem createAll_gains {fromRoot : Bool} {steps : List Step} :
    t.Gains cwd [] (FilePath.fronts fromRoot steps.reverse) (t.createAll cwd fromRoot steps).1 := by
  induction steps
  case nil => exact .refl
  case cons s steps hi =>
    have hp : .ofSteps fromRoot (s :: steps).reverse ∈ FilePath.fronts fromRoot (s :: steps).reverse :=
      FilePath.mem_fronts.mpr ⟨_, List.prefix_rfl, rfl⟩
    have hs : FilePath.fronts fromRoot steps.reverse ⊆ FilePath.fronts fromRoot (s :: steps).reverse := by
      intro q hq
      have ⟨ss, hss, he⟩ := FilePath.mem_fronts.mp hq
      have hr : steps.reverse <+: (s :: steps).reverse := List.reverse_cons ▸ List.prefix_append _ _
      exact FilePath.mem_fronts.mpr ⟨ss, hss.trans hr, he⟩
    have hi := hi.mono hs
    rw [createAll]
    split
    case h_1 h => exact gains_of_createDirectory h hp
    case h_2   =>
      split
      case h_1 he => exact he ▸ hi
      case h_2 hn =>
        have hi := hn ▸ hi
        split
        case h_1 h => exact hi.trans (gains_of_createDirectory h hp)
        case h_2   => exact hi
    case h_3 => exact .refl

theorem createParents_gains : t.Gains cwd [] p.ancestors (t.createParents cwd p).1 := by
  rw [createParents]
  split
  case h_2           => exact .refl
  case h_1 parent hp =>
    rw [FilePath.parent?] at hp
    split at hp <;> cases hp
    have hg : t.Gains cwd [] _ (t.createAll cwd p.fromRoot p.essential.dropLast.reverse).1 := createAll_gains
    rwa [List.reverse_reverse] at hg

-- The directory that a path leads through at its end is there already.
def HasParent (t : FileTree) (cwd : Location) (p : FilePath) : Prop :=
  ∀ parent ∈ p.parent?, parent.steps = [] ∨ t.isDirectoryAt cwd parent

-- Nothing can be created where a directory is, whether the path ends in its name or not.
theorem createDirectory_of_isDirectoryAt {ss : List Step} {s : Step} (hs : p.steps = ss ++ [s])
    (h : t.isDirectoryAt cwd p) : t.createDirectory cwd p = .error .alreadyExists := by
  obtain ⟨l, hf⟩ := isDirectoryAt_iff.mp h
  obtain ⟨hc, hf, -, -⟩ := find_eq_ok.mp hf
  rw [hs, follow_append_eq_ok] at hf
  obtain ⟨k, hk, hf⟩ := hf
  obtain ⟨hd, m, hn, -⟩ := follow_cons_eq_ok.mp hf
  have hk : t.follow (start cwd p) p.steps.dropLast = .ok k := by rw [hs, List.dropLast_concat, hk]
  have hg : p.steps.getLast? = some s := by rw [hs, List.getLast?_concat]
  cases s
  case here => rw [createDirectory, target_of_follow hc hk hd, hg]; rfl
  case up   => rw [createDirectory, target_of_follow hc hk hd, hg]; rfl
  case down name =>
    have ⟨hl, he, _⟩ := next_down_eq_ok.mp hn
    have ht : t.target cwd p = .ok (some (k ++ [name])) :=
      target_eq_some.mpr ⟨hc, k, name, hk, hd, hg, hl, rfl⟩
    rw [createDirectory, ht]
    exact if_pos he

theorem createParents_of_hasParent (h : t.HasParent cwd p) : t.createParents cwd p = (t, none) := by
  rw [createParents]
  split
  case h_2           => rfl
  case h_1 parent hp =>
    have hs : FilePath.ofSteps parent.fromRoot parent.steps = parent := by
      rw [FilePath.parent?] at hp
      split at hp <;> cases hp
      rfl
    cases hss : parent.steps.reverse
    case nil => rfl
    case cons s ss =>
      have hd : t.isDirectoryAt cwd parent :=
        (h parent hp).resolve_left fun hn => by simp [hn] at hss
      have hr : (s :: ss).reverse = parent.steps := by rw [← hss, List.reverse_reverse]
      have hc := createDirectory_of_isDirectoryAt (hr.symm.trans List.reverse_cons) hd
      simp [createAll, hr, hs, hc, hd]

theorem write_eq_ok :
    t.write cwd p octets = .ok t' ↔ ∃ l, t.target cwd p = .ok (some l) ∧ p.closed = false ∧
      t.get? l ≠ some .directory ∧ t' = t.put l (.file octets) := by
  simp only [write, bind_eq_ok]
  constructor
  case mp =>
    rintro ⟨l?, ht, h⟩
    cases l?
    case none => cases h
    case some l =>
      dsimp only at h
      split at h
      case isTrue => cases h
      case isFalse hn =>
        rw [Bool.or_eq_true, not_or, isDirectory_iff] at hn
        exact ⟨l, ht, by simpa using hn.left, hn.right, (pure_eq_ok.mp h).symm⟩
  case mpr =>
    rintro ⟨l, ht, hc, hd, rfl⟩
    have hd : t.isDirectory l = false := by simpa [isDirectory] using hd
    exact ⟨some l, ht, by simp [hc, hd, pure_eq_ok]⟩

theorem gains_of_write (h : t.write cwd p octets = .ok t') :
    ∃ l, t'.find cwd p = .ok (l, .file octets) ∧ t.Gains cwd [l] ps t' := by
  obtain ⟨l, ht, hc, hd, rfl⟩ := write_eq_ok.mp h
  have hg {m : Location} : (t.put l (.file octets)).get? m = if m = l then some (.file octets) else t.get? m :=
    get?_put (ne_nil_of_target ht)
  have hp : (t.put l (.file octets)).get? l = some (.file octets) := by rw [hg, if_pos rfl]
  have hb : t.Becomes [l] (t.put l (.file octets)) := by
    constructor
    case file  => exact List.forall_mem_singleton.mpr ⟨hd, octets, hp⟩
    case other =>
      intro m hm
      rw [hg, if_neg (by simpa using hm)]
      exact .inl rfl
  refine ⟨l, hb.find_of_target ht hp (by simp [hc]), hb, fun m hm hm' => ?_⟩
  rw [hg] at hm'
  split at hm'
  case isTrue  => cases hm'
  case isFalse => cases hm.symm.trans hm'

-- A file is saved as a whole, or there are but new directories.
theorem save_cases (t : FileTree) (cwd : Location) (p : FilePath) (text : String) :
    (∃ t' e, t.save cwd p text = (t', some e) ∧ t.Becomes [] t' ∧ (t.HasParent cwd p → t' = t)) ∨
    ∃ t' l, t.save cwd p text = (t', none) ∧ t'.find cwd p = .ok (l, .file text.toUTF8.data.toList) ∧
      t.Gains cwd [l] p.ancestors t' := by
  have hp {a : Attempt FileProblem} (h : t.createParents cwd p = a) : t.Gains cwd [] p.ancestors a.1 :=
    h ▸ createParents_gains
  rw [save]
  split
  case h_1 t' e h =>
    refine .inl ⟨t', e, rfl, (hp h).toBecomes, fun hd => ?_⟩
    rw [createParents_of_hasParent hd] at h
    cases h
  case h_2 t' h =>
    split
    case h_1 t'' hw =>
      obtain ⟨l, hf, hg⟩ := gains_of_write hw
      exact .inr ⟨t'', l, rfl, hf, (hp h).trans hg⟩
    case h_2 e _ =>
      refine .inl ⟨t', e, rfl, (hp h).toBecomes, fun hd => ?_⟩
      rw [createParents_of_hasParent hd] at h
      cases h
      rfl

end FileTree
end EnvConfig
