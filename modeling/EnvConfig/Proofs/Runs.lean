import EnvConfig.CommandLine.Run
import EnvConfig.Proofs.Evaluation
import EnvConfig.Proofs.Saving

-- What a run that fails leaves in a file tree. Nothing is put back that has been written before the problem.

namespace EnvConfig

open FileTree

-- What a run that has something to write leaves behind when it fails: directories, if the module cannot be
-- written, and none if the module's is there already; and the module as well, if the scaffold cannot.
inductive Remains (t : FileTree) (cwd : Location) (a : Arguments) (g : Generated) :
    FileTree → Outcome → Prop
  | module {t' : FileTree} {e : FileProblem} :
    (t.Becomes [] t') → (t.HasParent cwd a.modulePath → t' = t) →
    Remains t cwd a g t' (.failed (.write a.modulePath.text e))
  | scaffold {t' : FileTree} {l : Location} {p : FilePath} {e : FileProblem} :
    (t'.find cwd a.modulePath = .ok (l, .file g.text.toUTF8.data.toList)) → (t.Becomes [l] t') →
    (a.scaffold = some p) → Remains t cwd a g t' (.failed (.write p.text e))

theorem Arguments.unchanged_or_remains {a : Arguments} {t : FileTree} {cwd : Location}
    (h : (a.run t cwd).2.exitCode ≠ 0) :
    (a.run t cwd).1 = t ∨ ∃ g, (a.generator (cwd.getLast?.getD "")).generateFile t cwd a.input = .ok g ∧
      Remains t cwd a g (a.run t cwd).1 (a.run t cwd).2 := by
  cases hg : (a.generator (cwd.getLast?.getD "")).generateFile t cwd a.input
  case error p =>
    rw [run, hg]
    exact .inl rfl
  case ok g =>
    refine .inr ⟨g, rfl, ?_⟩
    simp only [run, hg, outputs, saveAll] at h ⊢
    obtain ⟨t', e, hs, hb, hp⟩ | ⟨t', l, hs, hf, hb⟩ := save_cases t cwd a.modulePath g.text
    case inl =>
      rw [hs]
      exact .module hb hp
    case inr =>
      rw [hs] at h ⊢
      cases hp : a.scaffold
      case none => simp [hp, saveAll, Outcome.exitCode] at h
      case some p =>
        obtain ⟨t'', e, hs', hb', -⟩ | ⟨t'', _, hs', _, _⟩ := save_cases t' cwd p g.scaffold
        case inl =>
          simp only [Option.toList, List.map, saveAll, hs']
          exact .scaffold (hb'.find (by simp) hf) (by simpa using hb.toBecomes.trans hb') hp
        case inr => simp [hp, saveAll, hs', Outcome.exitCode] at h

-- A run that fails leaves a tree as it is, up to the point where it has something to write. A file that
-- cannot be written leaves what has been written before it.
theorem remains_of_run {t : FileTree} {cwd : Location} {env : Environment} {args : List String}
    (h : (run t cwd env args).2.exitCode ≠ 0) :
    (run t cwd env args).1 = t ∨ ∃ a g, Arguments.read env args = .ok a ∧
      (a.generator (cwd.getLast?.getD "")).generateFile t cwd a.input = .ok g ∧
      Remains t cwd a g (run t cwd env args).1 (run t cwd env args).2 := by
  cases ha : Arguments.read env args
  case error s =>
    rw [run, ha]
    exact .inl rfl
  case ok a =>
    simp only [run, ha] at h ⊢
    exact (Arguments.unchanged_or_remains h).imp_right fun ⟨g, hg, hr⟩ => ⟨a, g, rfl, hg, hr⟩

namespace Sample

def unrulyTree : FileTree :=
  (FileTree.empty.put ["d"] .directory).put ["unruly"] (.file unruly.source.toUTF8.data.toList)

def unrulyCommand : List String :=
  ["--path", "unruly", "--struct", "C", "--project", "a\rb", "--env", "d"]

def unrulyArguments : Arguments where
  input     := .ofText "unruly"
  root      := "C"
  project   := some "a\rb"
  output    := none
  scaffold  := some (.ofText "d")
  typesPath := "super"
  gate      := none
  debug     := false

theorem read_unrulyCommand : Arguments.read (fun _ => none) unrulyCommand = .ok unrulyArguments := by
  rfl

theorem generateFile_unruly :
    (unrulyArguments.generator "").generateFile unrulyTree [] unrulyArguments.input = unruly.generate := by
  have hf : unrulyTree.find [] unrulyArguments.input =
      .ok (["unruly"], .file unruly.source.toUTF8.data.toList) := by
    refine find_eq_ok.mpr ⟨rfl, rfl, ?_, nofun⟩
    rw [unrulyTree, get?_put (by decide), if_pos rfl]
  have hr : unrulyTree.readText [] unrulyArguments.input = .ok unruly.source := readText_of_find hf
  rw [Generator.generateFile, hr]
  rfl

theorem save_module {text : String} : unrulyTree.save [] unrulyArguments.modulePath text =
    (unrulyTree.put ["config_gen.rs"] (.file text.toUTF8.data.toList), none) := by
  have hp : unrulyTree.createParents [] unrulyArguments.modulePath = (unrulyTree, none) := rfl
  have hw : unrulyTree.write [] unrulyArguments.modulePath text.toUTF8.data.toList =
      .ok (unrulyTree.put ["config_gen.rs"] (.file text.toUTF8.data.toList)) := by
    refine write_eq_ok.mpr ⟨["config_gen.rs"], target_eq_some.mpr ?_, rfl, by decide, rfl⟩
    exact ⟨rfl, [], "config_gen.rs", rfl, rfl, rfl, by decide, rfl⟩
  simp only [save, hp, hw]

theorem save_scaffold {t : FileTree} {text : String} (hd : t.get? ["d"] = some .directory) :
    t.save [] (.ofText "d") text = (t, some .isADirectory) := by
  have hp : t.createParents [] (.ofText "d") = (t, none) := rfl
  have ht : t.target [] (.ofText "d") = .ok (some ["d"]) :=
    target_eq_some.mpr ⟨rfl, [], "d", rfl, rfl, rfl, by decide, rfl⟩
  have hw : t.write [] (.ofText "d") text.toUTF8.data.toList = .error .isADirectory := by
    rw [write, ht]
    exact if_pos (by rw [isDirectory_iff.mpr hd, Bool.or_true])
  simp only [save, hp, hw]

-- The scaffold is to be written where a directory is, and the module has been written before.
theorem run_unruly : ∃ out, unruly.generate = .ok out ∧
    run unrulyTree [] (fun _ => none) unrulyCommand =
      (unrulyTree.put ["config_gen.rs"] (.file out.text.toUTF8.data.toList),
        .failed (.write "d" .isADirectory)) := by
  obtain ⟨out, hg, -⟩ := unruly_generates
  have hg' : (unrulyArguments.generator (([] : Location).getLast?.getD "")).generateFile unrulyTree []
      unrulyArguments.input = .ok out := generateFile_unruly.trans hg
  have hd : (unrulyTree.put ["config_gen.rs"] (.file out.text.toUTF8.data.toList)).get? ["d"] =
      some .directory := by
    rw [get?_put (by decide), if_neg (by decide)]
    rfl
  have hs : unrulyArguments.scaffold = some (.ofText "d") := rfl
  refine ⟨out, hg, ?_⟩
  simp only [run, read_unrulyCommand, Arguments.run, hg', Arguments.outputs, hs, Option.toList, List.map,
    saveAll, save_module, save_scaffold hd]
  rfl

theorem unruly_not_kept : ¬∀ (t : FileTree) (cwd : Location) (env : Environment) (args : List String),
    (run t cwd env args).2.exitCode ≠ 0 → ∀ l, (run t cwd env args).1.get? l = t.get? l := by
  intro h
  obtain ⟨out, -, hr⟩ := run_unruly
  have he : (run unrulyTree [] (fun _ => none) unrulyCommand).2.exitCode ≠ 0 := by
    rw [hr]
    exact Nat.one_ne_zero
  have hk := h unrulyTree [] (fun _ => none) unrulyCommand he ["config_gen.rs"]
  rw [hr, get?_put (by decide), if_pos rfl] at hk
  cases hk

theorem unruly_remains :
    (run unrulyTree [] (fun _ => none) unrulyCommand).2.exitCode ≠ 0 ∧
    ∃ out, unruly.generate = .ok out ∧ Remains unrulyTree [] unrulyArguments out
      (run unrulyTree [] (fun _ => none) unrulyCommand).1
      (run unrulyTree [] (fun _ => none) unrulyCommand).2 := by
  obtain ⟨out, hg, hr⟩ := run_unruly
  have he : (run unrulyTree [] (fun _ => none) unrulyCommand).2.exitCode ≠ 0 := by
    rw [hr]
    exact Nat.one_ne_zero
  refine ⟨he, ?_⟩
  obtain h | ⟨a, g, ha, hg, h⟩ := remains_of_run he
  case inl =>
    rw [hr] at h
    have hk : (unrulyTree.put ["config_gen.rs"] (.file out.text.toUTF8.data.toList)).get? ["config_gen.rs"] =
        none := congrArg (FileTree.get? · _) h
    rw [get?_put (by decide), if_pos rfl] at hk
    cases hk
  case inr =>
    cases read_unrulyCommand.symm.trans ha
    exact ⟨g, generateFile_unruly.symm.trans hg, h⟩

end Sample
end EnvConfig
