import EnvConfig.Proofs.Runs

-- What a run that succeeds leaves in a file tree: its files, each where its path leads to, and directories on
-- the way there. Nothing keeps two paths from leading to one place, where the file that is written last stays.

namespace EnvConfig

namespace FileTree

variable {t t' : FileTree} {cwd k l m : Location} {ls : List Location} {p q : FilePath}
  {octets : List UInt8} {fs : List OutputFile} {ss : List Step}

theorem mem_above : k ∈ above l ↔ k <+: l ∧ k ≠ l := by
  simp only [above, List.mem_map, List.mem_range]
  constructor
  case mp =>
    intro ⟨n, hn, hk⟩
    subst hk
    refine ⟨List.take_prefix n l, fun he => ?_⟩
    have := congrArg List.length he
    rw [List.length_take] at this
    omega
  case mpr =>
    intro ⟨hk, hn⟩
    refine ⟨k.length, ?_, (List.prefix_iff_eq_take.mp hk).symm⟩
    exact Nat.lt_of_le_of_ne hk.length_le fun he => hn (hk.eq_of_length he)

-- Whoever does not go up goes down.
theorem prefix_of_follow (hu : .up ∉ ss) (h : t.follow l ss = .ok m) : l <+: m := by
  induction ss generalizing l
  case nil =>
    cases h
    exact List.prefix_rfl
  case cons s ss hi =>
    have ⟨_, k, hn, hf⟩ := follow_cons_eq_ok.mp h
    have hk : k <+: m := hi (fun hm => hu (.tail s hm)) hf
    cases s
    case here =>
      cases hn
      exact hk
    case up        => exact absurd List.mem_cons_self hu
    case down name =>
      have ⟨_, _, he⟩ := next_down_eq_ok.mp hn
      exact (List.prefix_append l [name]).trans (he ▸ hk)

theorem follow_filter_here (h : t.follow l ss = .ok m) : t.follow l (ss.filter (· ≠ .here)) = .ok m := by
  induction ss generalizing l
  case nil => exact h
  case cons s ss hi =>
    have ⟨hd, k, hn, hf⟩ := follow_cons_eq_ok.mp h
    by_cases hs : s = .here
    case pos =>
      subst hs
      cases hn
      simpa using hi hf
    case neg =>
      rw [List.filter_cons_of_pos (by simpa using hs)]
      exact follow_cons_eq_ok.mpr ⟨hd, k, hn, hi hf⟩

theorem follow_essential (h : t.follow l p.steps = .ok m) : t.follow l p.essential = .ok m := by
  unfold FilePath.essential
  split
  case h_2        => exact follow_filter_here h
  case h_1 ss _ e =>
    have ⟨hd, k, hn, hf⟩ := follow_cons_eq_ok.mp (e ▸ h)
    exact follow_cons_eq_ok.mpr ⟨hd, k, hn, follow_filter_here hf⟩

theorem essential_subset : p.essential ⊆ p.steps := by
  unfold FilePath.essential
  split
  case h_2        => exact List.filter_subset_self _
  case h_1 ss _ e => rw [e]; exact List.cons_subset_cons _ (List.filter_subset_self _)

-- The directories on the way to a file are those that hold it, where the way never goes up.
theorem mem_above_of_ancestor (hu : .up ∉ p.steps) (hq : q ∈ p.ancestors)
    (hk : t.find cwd q = .ok (k, .directory)) (hm : t.find cwd p = .ok (m, .file octets)) : k ∈ above m := by
  have ⟨_, hfm, hgm, _⟩ := find_eq_ok.mp hm
  have ⟨_, hfk, hgk, _⟩ := find_eq_ok.mp hk
  obtain ⟨ss, hss, rfl⟩ := FilePath.mem_fronts.mp hq
  obtain ⟨rest, he⟩ := hss.trans p.essential.dropLast_prefix
  have hf := follow_essential hfm
  rw [← he, follow_append_eq_ok] at hf
  have ⟨k', hk', hf⟩ := hf
  cases hk'.symm.trans hfk
  have hr : .up ∉ rest := fun hm => hu (essential_subset (he ▸ List.mem_append_right ss hm))
  refine mem_above.mpr ⟨prefix_of_follow hr hf, fun hkm => ?_⟩
  cases hgm.symm.trans (hkm ▸ hgk)

-- A path leads to a place, whatever is there.
def LeadsTo (t : FileTree) (cwd : Location) (p : FilePath) (l : Location) : Prop :=
  ∃ e, t.find cwd p = .ok (l, e)

-- Each of some files is where its path leads to, unless the path of a later one leads there as well.
def Holds (t : FileTree) (cwd : Location) : List OutputFile → Prop
  | []      => True
  | f :: fs => t.Holds cwd fs ∧ ∃ l octets, t.find cwd f.path = .ok (l, .file octets) ∧
    (octets = f.text.toUTF8.data.toList ∨ ∃ g ∈ fs, t.LeadsTo cwd g.path l)

theorem Holds.find {f : OutputFile} (h : t.Holds cwd fs) (hf : f ∈ fs) :
    ∃ l octets, t.find cwd f.path = .ok (l, .file octets) := by
  induction fs
  case nil => cases hf
  case cons g fs hi =>
    have ⟨hh, l, octets, ho, _⟩ := h
    obtain hf | hf := List.mem_cons.mp hf
    case inl => exact ⟨l, octets, hf ▸ ho⟩
    case inr => exact hi hh hf

-- A file is still there, perhaps with another content.
theorem Becomes.find_file (h : t.Becomes ls t') (hf : t.find cwd p = .ok (l, .file octets)) :
    ∃ octets', t'.find cwd p = .ok (l, .file octets') ∧ (octets' = octets ∨ l ∈ ls) := by
  by_cases hl : l ∈ ls
  case neg => exact ⟨octets, h.find hl hf, .inl rfl⟩
  case pos =>
    have ⟨hc, hs, _, hd⟩ := find_eq_ok.mp hf
    have ⟨_, octets', ho⟩ := h.file l hl
    exact ⟨octets', find_eq_ok.mpr ⟨hc, h.follow hs, ho, fun hp => nomatch hd hp⟩, .inr hl⟩

-- Files that are saved one after the other: each is found where its path led to when it was saved.
theorem saveAll_gains (h : t.saveAll cwd fs = (t', none)) :
    ∃ ls, t.Gains cwd ls (fs.flatMap (·.path.ancestors)) t' ∧ t'.Holds cwd fs ∧
      ∀ l ∈ ls, ∃ f ∈ fs, t'.LeadsTo cwd f.path l := by
  induction fs generalizing t
  case nil =>
    cases h
    exact ⟨[], .refl, trivial, nofun⟩
  case cons f fs hi =>
    rw [saveAll] at h
    obtain ⟨_, e, hs, -⟩ | ⟨t₁, l, hs, hf, hg⟩ := save_cases t cwd f.path f.text
    case inl =>
      rw [hs] at h
      cases h
    case inr =>
      rw [hs] at h
      obtain ⟨ls, hg', hh, hl⟩ := hi h
      obtain ⟨octets, hf', ho⟩ := hg'.find_file hf
      refine ⟨[l] ++ ls, (hg.mono ?_).trans (hg'.mono ?_), ⟨hh, l, octets, hf', ho.imp_right (hl l)⟩, ?_⟩
      case refine_1 => simp
      case refine_2 => simp
      case refine_3 =>
        intro m hm
        obtain hm | hm := List.mem_append.mp hm
        case inl => exact ⟨f, .head fs, _, List.mem_singleton.mp hm ▸ hf'⟩
        case inr =>
          obtain ⟨g, hg, hm⟩ := hl m hm
          exact ⟨g, .tail f hg, hm⟩

end FileTree

open FileTree

namespace Arguments

-- The paths of the files that a run writes.
def written (a : Arguments) : List FilePath :=
  a.modulePath :: a.scaffold.toList

theorem written_eq {a : Arguments} {g : Generated} : a.written = (a.outputs g).map (·.path) := by
  simp [written, outputs, Function.comp_def]

end Arguments

-- What a run that has written its files leaves behind. The scaffold comes last, so it may stand instead of the
-- module, and both may stand instead of any other file.
structure Delivers (t : FileTree) (cwd : Location) (a : Arguments) (g : Generated) (t' : FileTree) :
    Prop where
  scaffold : ∀ p ∈ a.scaffold, ∃ l, t'.find cwd p = .ok (l, .file g.scaffold.toUTF8.data.toList)
  module   : ∃ l octets, t'.find cwd a.modulePath = .ok (l, .file octets) ∧
    (octets = g.text.toUTF8.data.toList ∨ ∃ p ∈ a.scaffold, t'.LeadsTo cwd p l)
  created  : ∀ l, t.get? l = none → t'.get? l = some .directory → ∃ p ∈ a.written,
    (∃ q ∈ p.ancestors, t'.find cwd q = .ok (l, .directory)) ∧
    (.up ∉ p.steps → ∃ m, t'.LeadsTo cwd p m ∧ l ∈ above m)
  input    : ∃ l octets, t.find cwd a.input = .ok (l, .file octets) ∧
    ((∀ p ∈ a.written, ¬t'.LeadsTo cwd p l) → t'.find cwd a.input = .ok (l, .file octets))
  other    : ∀ l, (∀ p ∈ a.written, ¬t'.LeadsTo cwd p l) →
    t'.get? l = t.get? l ∨ t.get? l = none ∧ t'.get? l = some .directory

section Run

variable {t t' : FileTree} {cwd : Location} {a : Arguments} {g : Generated}

theorem find_of_generateFile {generator : Generator} {p : FilePath}
    (h : generator.generateFile t cwd p = .ok g) : ∃ l octets, t.find cwd p = .ok (l, .file octets) := by
  rw [Generator.generateFile] at h
  split at h
  case h_1 hr => exact find_of_readText hr
  case h_2    => cases h

theorem delivers_of_saveAll (hi : ∃ l octets, t.find cwd a.input = .ok (l, .file octets))
    (h : t.saveAll cwd (a.outputs g) = (t', none)) : Delivers t cwd a g t' := by
  have ⟨ls, hg, hh, hl⟩ := saveAll_gains h
  have notMem {l : Location} (hn : ∀ p ∈ a.written, ¬t'.LeadsTo cwd p l) : l ∉ ls := by
    intro hm
    have ⟨f, hf, hp⟩ := hl l hm
    exact hn f.path (Arguments.written_eq ▸ List.mem_map_of_mem hf) hp
  constructor
  case scaffold =>
    intro p hp
    have hs := hh.left
    rw [Option.mem_def.mp hp] at hs
    obtain ⟨-, l, octets, hf, rfl | ⟨_, hm, _⟩⟩ := hs
    case inl => exact ⟨l, hf⟩
    case inr => cases hm
  case module =>
    have ⟨l, octets, hf, ho⟩ := hh.right
    exact ⟨l, octets, hf, by simpa using ho⟩
  case created =>
    intro l hn hd
    have ⟨q, hq, hf⟩ := hg.created l hn hd
    have ⟨f, hm, hq⟩ := List.mem_flatMap.mp hq
    refine ⟨f.path, Arguments.written_eq ▸ List.mem_map_of_mem hm, ⟨q, hq, hf⟩, fun hu => ?_⟩
    have ⟨m, octets, hp⟩ := hh.find hm
    exact ⟨m, ⟨_, hp⟩, mem_above_of_ancestor hu hq hf hp⟩
  case input =>
    have ⟨l, octets, hf⟩ := hi
    exact ⟨l, octets, hf, fun hn => hg.find (notMem hn) hf⟩
  case other => exact fun l hn => hg.other l (notMem hn)

theorem run_eq_written {env : Environment} {args : List String} :
    run t cwd env args = (t', .written) ↔ ∃ a g, Arguments.read env args = .ok a ∧
      (a.generator (cwd.getLast?.getD "")).generateFile t cwd a.input = .ok g ∧
      t.saveAll cwd (a.outputs g) = (t', none) := by
  constructor
  case mpr =>
    intro ⟨a, g, ha, hg, hs⟩
    simp only [run, ha, Arguments.run, hg, hs]
  case mp =>
    intro h
    rw [run] at h
    split at h
    case h_2 s hs => cases s <;> cases h
    case h_1 a ha =>
      rw [Arguments.run] at h
      split at h
      case h_1 => cases h
      case h_2 g hg =>
        split at h <;> cases h
        exact ⟨a, g, ha, hg, ‹_›⟩

theorem eq_of_run_eq_shown {env : Environment} {args : List String} {text : String}
    (h : run t cwd env args = (t', .shown text)) : t' = t := by
  rw [run] at h
  split at h
  case h_2    => exact (congrArg Prod.fst h).symm
  case h_1 a _ =>
    rw [Arguments.run] at h
    split at h
    case h_1 => cases h
    case h_2 => split at h <;> cases h

end Run

-- A run that ends well has shown a text, or it has written the module of what the input held before, and the
-- scaffold if it is asked for.
theorem delivers_of_run {t : FileTree} {cwd : Location} {env : Environment} {args : List String}
    (h : (run t cwd env args).2.exitCode = 0) :
    (∃ text, run t cwd env args = (t, .shown text)) ∨
    ∃ a g, Arguments.read env args = .ok a ∧
      (a.generator (cwd.getLast?.getD "")).generateFile t cwd a.input = .ok g ∧
      Delivers t cwd a g (run t cwd env args).1 := by
  cases hr : run t cwd env args
  case mk t' o =>
    rw [hr] at h
    cases o
    case misused => cases h
    case failed  => cases h
    case shown   => exact .inl ⟨_, by rw [eq_of_run_eq_shown hr]⟩
    case written =>
      have ⟨a, g, ha, hg, hs⟩ := run_eq_written.mp hr
      exact .inr ⟨a, g, ha, hg, delivers_of_saveAll (find_of_generateFile hg) hs⟩

namespace Sample

-- The directory `new` is created, too, though no file will be in it.
def tidyCommand : List String :=
  ["--path", "unruly", "--struct", "C", "--project", "a\rb", "--output", "new/../gen/loader",
    "--env", "gen/.env"]

def tidyArguments : Arguments :=
  { unrulyArguments with
    output   := some (.ofText "new/../gen/loader")
    scaffold := some (.ofText "gen/.env") }

theorem run_tidy : ∃ t', run unrulyTree [] (fun _ => none) tidyCommand = (t', .written) := by
  have ⟨out, hg, _⟩ := unruly_generates
  let t : FileTree := (unrulyTree.put ["new"] .directory).put ["gen"] .directory
  let t' : FileTree := t.put ["gen", "loader.rs"] (.file out.text.toUTF8.data.toList)
  have hm : unrulyTree.save [] tidyArguments.modulePath out.text = (t', none) := rfl
  have ⟨t'', hs⟩ : ∃ t'', t'.save [] (.ofText "gen/.env") out.scaffold = (t'', none) := ⟨_, rfl⟩
  refine ⟨t'', run_eq_written.mpr ⟨tidyArguments, out, rfl, generateFile_unruly.trans hg, ?_⟩⟩
  have ho : tidyArguments.outputs out =
      [⟨tidyArguments.modulePath, out.text⟩, ⟨.ofText "gen/.env", out.scaffold⟩] := rfl
  simp only [ho, saveAll, hm, hs]

theorem tidy_delivers : (run unrulyTree [] (fun _ => none) tidyCommand).2.exitCode = 0 ∧
    ∃ out, unruly.generate = .ok out ∧
      Delivers unrulyTree [] tidyArguments out (run unrulyTree [] (fun _ => none) tidyCommand).1 := by
  have ⟨t', hr⟩ := run_tidy
  have he : (run unrulyTree [] (fun _ => none) tidyCommand).2.exitCode = 0 := by rw [hr]; rfl
  refine ⟨he, ?_⟩
  obtain ⟨text, h⟩ | ⟨a, g, ha, hg, hd⟩ := delivers_of_run he
  case inl => cases hr.symm.trans h
  case inr =>
    have hu : Arguments.read (fun _ => none) tidyCommand = .ok tidyArguments := rfl
    cases hu.symm.trans ha
    exact ⟨g, generateFile_unruly.symm.trans hg, hd⟩

-- The scaffold is to be written where the input is.
def overwritingCommand : List String :=
  ["--path", "unruly", "--struct", "C", "--project", "a\rb", "--env", "unruly"]

def overwritingArguments : Arguments :=
  { unrulyArguments with scaffold := some (.ofText "unruly") }

theorem run_overwriting : ∃ out t', unruly.generate = .ok out ∧
    run unrulyTree [] (fun _ => none) overwritingCommand = (t', .written) ∧
    t'.find [] overwritingArguments.input = .ok (["unruly"], .file out.scaffold.toUTF8.data.toList) := by
  have ⟨out, hg, _⟩ := unruly_generates
  let t : FileTree := unrulyTree.put ["config_gen.rs"] (.file out.text.toUTF8.data.toList)
  let t' : FileTree := t.put ["unruly"] (.file out.scaffold.toUTF8.data.toList)
  have ho : overwritingArguments.outputs out =
      [⟨unrulyArguments.modulePath, out.text⟩, ⟨.ofText "unruly", out.scaffold⟩] := rfl
  have hw : unrulyTree.saveAll [] (overwritingArguments.outputs out) = (t', none) := by
    simp only [ho, saveAll, save_module]
    rfl
  exact ⟨out, t', hg, run_eq_written.mpr ⟨_, out, rfl, generateFile_unruly.trans hg, hw⟩, rfl⟩

theorem overwriting_input_not_kept : ¬∀ (t : FileTree) (cwd : Location) (env : Environment)
    (args : List String) (a : Arguments), (run t cwd env args).2.exitCode = 0 →
    Arguments.read env args = .ok a → (run t cwd env args).1.find cwd a.input = t.find cwd a.input := by
  intro h
  have ⟨out, t', hg, hr, hf⟩ := run_overwriting
  have hk := h unrulyTree [] (fun _ => none) overwritingCommand overwritingArguments (by rw [hr]; rfl) rfl
  rw [hr] at hk
  have hi : unrulyTree.find [] overwritingArguments.input =
      .ok (["unruly"], .file unruly.source.toUTF8.data.toList) := rfl
  have he : out.scaffold.toUTF8.data.toList = unruly.source.toUTF8.data.toList := by
    simpa using hf.symm.trans (hk.trans hi)
  have hn : (unruly.generator.draft unruly.name unruly.source).toOption.any fun out =>
      out.scaffold.toUTF8.data.toList ≠ unruly.source.toUTF8.data.toList := by decide +kernel
  rw [Generator.draft_of_generate hg] at hn
  exact of_decide_eq_true hn he

end Sample
end EnvConfig
