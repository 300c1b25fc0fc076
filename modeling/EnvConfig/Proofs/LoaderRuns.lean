import EnvConfig.Proofs.Closure
import EnvConfig.Proofs.ValueRuns
import EnvConfig.Proofs.Written

-- The program that loads a record does what is said of the module's loader: one variable after the other is
-- read, and then there is the record or the list of all problems.

namespace EnvConfig.Program

open Layout

variable {m : Module} {env : Environment} {rounds : Nat} {p p' : Module.Progress} {r : VariableRead} {rest : Block}

-- How the local variables hold how far a run has come.
def progressLocals (p : Module.Progress) : Locals :=
  (p.values.map fun (x, v) => (x, .ofOption (v.map .ofValue))).reverse ++
    [("invalid", .sentinels p.invalid), ("missing", .sentinels p.missing)]

-- A variable that can be taken for neither of the lists.
def IsValueName (x : String) : Prop :=
  x ≠ "missing" ∧ x ≠ "invalid"

theorem lookup_eq_none {β : Type} {l : List (String × β)} {x : String} (h : x ∉ l.map (·.1)) : l.lookup x = none :=
  List.lookup_eq_none_iff.mpr fun q hq => by
    simpa using fun he : x = q.1 => h (List.mem_map.mpr ⟨q, hq, he.symm⟩)

theorem lookup_values_eq_none {x : String} (h : x ∉ p.values.map (·.1)) :
    (p.values.map fun (x, v) => (x, Datum.ofOption (v.map .ofValue))).reverse.lookup x = none :=
  lookup_eq_none (by simpa [Function.comp_def] using h)

section

variable (h : ∀ x ∈ p.values.map (·.1), IsValueName x)
include h

theorem lookup_missing : (progressLocals p).lookup "missing" = some (.sentinels p.missing) :=
  Locals.lookup_below (lookup_values_eq_none fun hm => (h _ hm).left rfl)

theorem lookup_invalid : (progressLocals p).lookup "invalid" = some (.sentinels p.invalid) :=
  Locals.lookup_below (lookup_values_eq_none fun hm => (h _ hm).right rfl)

theorem assign_missing {ss : List Sentinel} :
    (progressLocals p).assign "missing" (.sentinels ss) = some (progressLocals { p with missing := ss }) :=
  Locals.assign_below (lookup_values_eq_none fun hm => (h _ hm).left rfl)

theorem assign_invalid {ss : List Sentinel} :
    (progressLocals p).assign "invalid" (.sentinels ss) = some (progressLocals { p with invalid := ss }) :=
  Locals.assign_below (lookup_values_eq_none fun hm => (h _ hm).right rfl)

end

-- What a read relies on: its local variable is told apart from the lists, the value is read by the type's own
-- rules, and the module has the helper for them.
structure IsReadable (m : Module) (r : VariableRead) : Prop where
  name    : IsValueName r.binding
  parsing : ∀ i ∈ r.interpretation, i.parsing = r.type.parsing
  helper  : ∀ i ∈ r.interpretation, ∀ k, i.parsing.parse.helper? = some k → k ∈ m.helpers

-- The value of a read's variable has no more characters than a loop can take rounds.
def IsShort (m : Module) (env : Environment) (rounds : Nat) (r : VariableRead) : Prop :=
  ∀ key octets, m.key? r.constant = some key → env key = some octets →
    (Text.Utf8.decodeLossy octets).length ≤ rounds

theorem loaderContext_calls {k : Helper} (h : k ∈ m.helpers) : (loaderContext m env rounds).Calls k := by
  have hs : (m.helpers.find? (·.name = k.name)).isSome := List.find?_isSome.mpr ⟨k, h, by simp⟩
  obtain ⟨k', hk⟩ := Option.isSome_iff_exists.mp hs
  have hn : k'.name = k.name := by simpa using List.find?_some hk
  have he : k' = k := by cases k' <;> cases k <;> first | rfl | exact absurd hn (by decide)
  refine ⟨helperContext m env rounds, rfl, ?_⟩
  simp only [loaderContext, hk, he, Option.map_some]
  rfl

section

variable {octets : List UInt8} {sentinel : Sentinel}

theorem eval_variable {constant key : String} {l : Locals} (hk : m.key? constant = some key) :
    (Expr.variable constant).eval (loaderContext m env rounds) l =
      .value (.ofOption ((env key).map .octets)) l := by
  have hl : (loaderContext m env rounds).lookup? constant = some (.ofOption ((env key).map .octets)) := by
    simp [Context.lookup?, loaderContext, helperContext, hk]
  simp [Expr.eval, hl]

theorem pushed?_loaderContext {variant : String} {ss : List Sentinel} (h : m.sentinel? variant = some sentinel) :
    (loaderContext m env rounds).pushed? m.types.sentinels variant (.sentinels ss) =
      some (.sentinels (ss ++ [sentinel])) := by
  simp [Context.pushed?, loaderContext, helperContext, h]

theorem eval_absentBlock (hp : ∀ x ∈ p.values.map (·.1), IsValueName x)
    (hs : m.sentinel? r.missing = some sentinel) :
    (absentBlock m.types.sentinels r).eval (loaderContext m env rounds) (progressLocals p) =
      .value .none (progressLocals { p with missing := p.missing ++ [sentinel] }) := by
  rw [absentBlock, eval_push (lookup_missing hp) (pushed?_loaderContext hs) (assign_missing hp), Block.eval_value]
  exact Expr.eval_literal

-- The text of a variable that is set, as it is used from then on.
theorem eval_lossy {l : Locals} (hl : l.lookup "raw" = some (.octets octets)) {c : Context} :
    (Expr.unary .lossy "raw").eval c l = .value (.text (Text.Utf8.decodeLossy octets)) l :=
  eval_unary (eval_name hl) rfl

-- Any text is a value where nothing has to be read from it.
theorem eval_presentBlock_none (hi : r.interpretation = none) {c : Context} {sentinels : String} {l : Locals} :
    (presentBlock sentinels r).eval c (("raw", .octets octets) :: l) =
      .value (.some (.ofValue (.string (String.ofList (Text.Utf8.decodeLossy octets)))))
        (("raw", .octets octets) :: l) := by
  simp only [presentBlock, hi, Block.eval_value, Datum.ofValue, String.toList_ofList]
  exact eval_unary (eval_unary (eval_lossy rfl) rfl) rfl

-- The local variables within the block for a variable that is set.
def presentLocals (octets : List UInt8) (parsed : Datum) (l : Locals) : Locals :=
  [("parsed", parsed), ("raw", .text (Text.Utf8.decodeLossy octets)), ("raw", .octets octets)] ++ l

@[simp]
theorem length_progressLocals : (progressLocals p).length = p.values.length + 2 := by
  simp [progressLocals]

-- Otherwise the text is read, and one that cannot be is reported.
theorem eval_presentBlock {i : Interpretation} (hi : r.interpretation = some i) (hr : IsReadable m r)
    (hn : (Text.Utf8.decodeLossy octets).length ≤ rounds) {l : Locals} :
    (presentBlock m.types.sentinels r).eval (loaderContext m env rounds) (("raw", .octets octets) :: l) =
      (Block.onlyIf (.unary .isNone "parsed") (.push "invalid" m.types.sentinels i.invalid .done)
        (.value "parsed")).eval (loaderContext m env rounds)
        (presentLocals octets (.ofOption ((i.parsing.read (Text.Utf8.decodeLossy octets)).map .ofValue)) l) := by
  let inner : Locals := ("raw", .text (Text.Utf8.decodeLossy octets)) :: ("raw", .octets octets) :: l
  have hp : i.parsing = r.type.parsing := hr.parsing i hi
  have hv : (valueOf i.parsing).Reads (loaderContext m env rounds) inner i.parsing
      (Text.Utf8.decodeLossy octets) := by
    rw [hp]
    exact reads_primitive rfl r.type (fun k hk => loaderContext_calls (hr.helper i hi k (hp ▸ hk))) hn
  simp only [presentBlock, hi]
  rw [eval_letIn (eval_lossy rfl), eval_letIn hv]
  rfl

theorem eval_valid {v : Value} {l : Locals} {c : Context} {b : Block} :
    (Block.onlyIf (.unary .isNone "parsed") b (.value "parsed")).eval c
        (presentLocals octets (.some (.ofValue v)) l) =
      .value (.some (.ofValue v)) (presentLocals octets (.some (.ofValue v)) l) := by
  rw [eval_onlyIf_false (eval_unary (eval_name rfl) rfl), Block.eval_value]
  exact eval_name rfl

theorem eval_invalid {variant : String} (hp : ∀ x ∈ p.values.map (·.1), IsValueName x)
    (hs : m.sentinel? variant = some sentinel) :
    (Block.onlyIf (.unary .isNone "parsed") (.push "invalid" m.types.sentinels variant .done) (.value "parsed")).eval
        (loaderContext m env rounds) (presentLocals octets .none (progressLocals p)) =
      .value .none (presentLocals octets .none (progressLocals { p with invalid := p.invalid ++ [sentinel] })) := by
  let before := presentLocals octets .none (progressLocals p)
  let after := presentLocals octets .none (progressLocals { p with invalid := p.invalid ++ [sentinel] })
  have hl : before.lookup "invalid" = some (.sentinels p.invalid) :=
    (Locals.lookup_below (l := progressLocals p) rfl).trans (lookup_invalid hp)
  have ha : before.assign "invalid" (.sentinels (p.invalid ++ [sentinel])) = some after := by
    have ha := Locals.assign_below (l := progressLocals p) (d := .sentinels (p.invalid ++ [sentinel]))
      (show (presentLocals octets .none []).lookup "invalid" = none from rfl)
    rw [assign_invalid hp] at ha
    exact ha
  have hb : (Block.push "invalid" m.types.sentinels variant .done).eval (loaderContext m env rounds) before =
      .value .unit after := by
    rw [eval_push hl (pushed?_loaderContext hs) ha, Block.eval]
    rfl
  have hd : after.drop (after.length - before.length) = after := by simp [after, before, presentLocals]
  rw [eval_onlyIf_true (eval_unary (eval_name rfl) rfl) hb, hd, Block.eval_value]
  exact eval_name rfl

end

-- What is bound to a read's local variable is the value or nothing, after a problem has been put on its list.
theorem exists_of_readVariable (hp : ∀ x ∈ p.values.map (·.1), IsValueName x) (hr : IsReadable m r)
    (hn : IsShort m env rounds r) (h : m.readVariable env p r = some p') :
    ∃ q v, p' = q.bind r.binding v ∧ q.values = p.values ∧
      (Expr.onOption (.variable r.constant) "raw" (presentBlock m.types.sentinels r)
        (absentBlock m.types.sentinels r)).eval (loaderContext m env rounds) (progressLocals p) =
          .value (.ofOption (v.map .ofValue)) (progressLocals q) := by
  obtain ⟨key, hk, h⟩ := Option.bind_eq_some_iff.mp h
  have hc : (Expr.variable r.constant).eval (loaderContext m env rounds) (progressLocals p) = _ := eval_variable hk
  cases he : env key
  case none =>
    simp only [he] at h hc
    obtain ⟨s, hs, h⟩ := Option.bind_eq_some_iff.mp h
    cases h
    exact ⟨{ p with missing := p.missing ++ [s] }, none, rfl, rfl,
      eval_onOption_none hc (eval_absentBlock hp hs) (by simp)⟩
  case some octets =>
    simp only [he] at h hc
    cases hi : r.interpretation
    case none =>
      simp only [hi] at h
      cases h
      refine ⟨p, _, rfl, rfl, eval_onOption_some hc (eval_presentBlock_none hi) ?_⟩
      simp
    case some i =>
      simp only [hi] at h
      have hb : (presentBlock m.types.sentinels r).eval (loaderContext m env rounds)
        (("raw", .octets octets) :: progressLocals p) = _ := eval_presentBlock hi hr (hn key octets hk he)
      cases hv : i.parsing.read (Text.Utf8.decodeLossy octets)
      case none =>
        simp only [hv] at h hb
        obtain ⟨s, hs, h⟩ := Option.bind_eq_some_iff.mp h
        cases h
        exact ⟨{ p with invalid := p.invalid ++ [s] }, none, rfl, rfl,
          eval_onOption_some hc (hb.trans (eval_invalid hp hs)) (by simp [presentLocals])⟩
      case some v =>
        simp only [hv] at h hb
        cases h
        exact ⟨p, some v, rfl, rfl, eval_onOption_some hc (hb.trans eval_valid) (by simp [presentLocals])⟩

-- One read of the program is one of the module's loader.
theorem eval_readThen (rest : Block) (hp : ∀ x ∈ p.values.map (·.1), IsValueName x) (hr : IsReadable m r)
    (hn : IsShort m env rounds r) (h : m.readVariable env p r = some p') :
    (readThen m.types.sentinels r rest).eval (loaderContext m env rounds) (progressLocals p) =
        rest.eval (loaderContext m env rounds) (progressLocals p') ∧
      p'.values.map (·.1) = p.values.map (·.1) ++ [r.binding] := by
  obtain ⟨q, v, rfl, hv, he⟩ := exists_of_readVariable hp hr hn h
  have hb : progressLocals (q.bind r.binding v) = (r.binding, .ofOption (v.map .ofValue)) :: progressLocals q := by
    simp [progressLocals, Module.Progress.bind]
  exact ⟨by rw [readThen, eval_letIn he, hb], by simp [Module.Progress.bind, hv]⟩

theorem eval_reads (rest : Block) {rs : List VariableRead} (hp : ∀ x ∈ p.values.map (·.1), IsValueName x)
    (hr : ∀ r ∈ rs, IsReadable m r) (hn : ∀ r ∈ rs, IsShort m env rounds r)
    (h : rs.foldlM (m.readVariable env) p = some p') :
    (rs.foldr (readThen m.types.sentinels) rest).eval (loaderContext m env rounds) (progressLocals p) =
        rest.eval (loaderContext m env rounds) (progressLocals p') ∧
      p'.values.map (·.1) = p.values.map (·.1) ++ rs.map (·.binding) := by
  induction rs generalizing p
  case nil =>
    cases h
    simp
  case cons r rs hi =>
    obtain ⟨hr, hrs⟩ := List.forall_mem_cons.mp hr
    obtain ⟨hn, hns⟩ := List.forall_mem_cons.mp hn
    rw [List.foldlM_cons] at h
    obtain ⟨q, hq, h⟩ := Option.bind_eq_some_iff.mp h
    obtain ⟨he, hv⟩ := eval_readThen (rs.foldr (readThen m.types.sentinels) rest) hp hr hn hq
    have hp : ∀ x ∈ q.values.map (·.1), IsValueName x := by
      rw [hv]
      exact List.forall_mem_append.mpr ⟨hp, by simpa using hr.name⟩
    obtain ⟨hes, hvs⟩ := hi hp hrs hns h
    exact ⟨he.trans hes, by simp [hvs, hv]⟩

section

variable {vs : List (String × Option Value)} {ws : List (String × Value)} {l : Locals}

theorem exists_of_all_isSome (h : vs.all (·.2.isSome)) :
    ∃ ws : List (String × Value), vs = ws.map fun q => (q.1, some q.2) := by
  induction vs
  case nil => exact ⟨[], rfl⟩
  case cons q vs hi =>
    rw [List.all_cons, Bool.and_eq_true] at h
    obtain ⟨w, hw⟩ := Option.isSome_iff_exists.mp h.left
    obtain ⟨ws, rfl⟩ := hi h.right
    exact ⟨(q.1, w) :: ws, by rw [List.map_cons, ← hw]⟩

theorem present?_some (h : ∀ q ∈ ws, l.lookup q.1 = some (.some (.ofValue q.2))) :
    present? l (ws.map (·.1)) = some (some (ws.map fun q => .ofValue q.2)) := by
  induction ws
  case nil => rfl
  case cons q ws hi =>
    obtain ⟨hq, h⟩ := List.forall_mem_cons.mp h
    simp [present?, hi h, hq]

theorem exists_present? (h : ∀ q ∈ vs, l.lookup q.1 = some (.ofOption (q.2.map .ofValue))) :
    ∃ ds?, present? l (vs.map (·.1)) = some ds? ∧ ds?.isSome = vs.all (·.2.isSome) := by
  induction vs
  case nil => exact ⟨some [], rfl, rfl⟩
  case cons q vs hi =>
    obtain ⟨hq, h⟩ := List.forall_mem_cons.mp h
    obtain ⟨ds?, hp, hs⟩ := hi h
    cases hv : q.2 <;> simp [present?, hp, hq, hv, Datum.ofOption, hs]

theorem present?_none (h : ∀ q ∈ vs, l.lookup q.1 = some (.ofOption (q.2.map .ofValue)))
    (hn : ¬vs.all (·.2.isSome)) : present? l (vs.map (·.1)) = some none := by
  obtain ⟨ds?, hp, hs⟩ := exists_present? h
  have hd : ds? = none := Option.not_isSome_iff_eq_none.mp (hs ▸ hn)
  rw [hp, hd]

theorem value?_ofValue (w : Value) : (Datum.ofValue w).value? = some w := by
  cases w <;> simp [Datum.ofValue, Datum.value?]

-- The values themselves hide the options that they have been in.
theorem lookup_declared (hp : p.values = ws.map fun q => (q.1, some q.2)) (hn : (ws.map (·.1)).Nodup) (x : String) :
    (((ws.map fun q => (q.1, Datum.ofValue q.2)).reverse ++ progressLocals p).lookup x).bind Datum.value? =
      (p.values.lookup x).bind id := by
  by_cases hx : x ∈ ws.map (·.1)
  case pos =>
    obtain ⟨⟨x, w⟩, hw, rfl⟩ := List.mem_map.mp hx
    have hv : p.values.lookup x = some (some w) := by
      rw [hp]
      exact lookup_of_mem (by simpa [Function.comp_def] using hn) (List.mem_map.mpr ⟨(x, w), hw, rfl⟩)
    have hl : (ws.map fun q => (q.1, Datum.ofValue q.2)).reverse.lookup x = some (.ofValue w) :=
      lookup_of_mem (by simpa [Function.comp_def] using hn)
        (List.mem_reverse.mpr (List.mem_map.mpr ⟨(x, w), hw, rfl⟩))
    rw [hv, Locals.lookup_above hl]
    exact value?_ofValue w
  case neg =>
    have hx : x ∉ p.values.map (·.1) := by simpa [hp, Function.comp_def] using hx
    have hl : (ws.map fun q => (q.1, Datum.ofValue q.2)).reverse.lookup x = none :=
      lookup_eq_none (by simpa [hp, Function.comp_def] using hx)
    rw [lookup_eq_none hx, Locals.lookup_below hl, progressLocals, Locals.lookup_below (lookup_values_eq_none hx)]
    by_cases hx : x ∈ ["invalid", "missing"]
    case pos => obtain rfl | rfl := List.mem_pair.mp hx <;> rfl
    case neg => rw [lookup_eq_none hx]; rfl

theorem lookup_value (hn : (p.values.map (·.1)).Nodup) :
    ∀ q ∈ p.values, (progressLocals p).lookup q.1 = some (.ofOption (q.2.map .ofValue)) := by
  intro q hq
  refine Locals.lookup_above (lookup_of_mem ?_ (List.mem_reverse.mpr (List.mem_map.mpr ⟨q, hq, rfl⟩)))
  simpa [Function.comp_def] using hn

end

section

variable {l : Loader} {x : Except LoadError (Record Value)}

-- With all values there is the record, and without one of them there are the lists.
theorem run_finish (hl : l.reads.map (·.binding) = p.values.map (·.1)) (hn : (p.values.map (·.1)).Nodup)
    (hp : ∀ x ∈ p.values.map (·.1), IsValueName x) (h : Module.finish l p = some x) :
    ((successThen l (.value (.failure m.types.loadError))).eval (loaderContext m env rounds)
      (progressLocals p)).leaveCall [] = .value (.loaded x) [] := by
  have hv := lookup_value hn
  rw [Module.finish] at h
  split at h
  case isTrue ha =>
    obtain ⟨ws, hw⟩ := exists_of_all_isSome ha
    obtain ⟨v, ht, rfl⟩ := Option.map_eq_some_iff.mp h
    have hk : l.reads.map (·.binding) = ws.map (·.1) := by simp [hl, hw, Function.comp_def]
    have hd : present? (progressLocals p) (l.reads.map (·.binding)) =
        some (some (ws.map fun q => .ofValue q.2)) := by
      rw [hk]
      exact present?_some fun q hq => hv (q.1, some q.2) (hw ▸ List.mem_map_of_mem hq)
    let inner : Locals := (ws.map fun q => (q.1, Datum.ofValue q.2)).reverse ++ progressLocals p
    have hr : record? inner l.literal = some v := by
      have hf : (fun x => (inner.lookup x).bind Datum.value?) = fun x => (p.values.lookup x).bind id :=
        funext (lookup_declared hw (by simpa [hw, Function.comp_def] using hn))
      rw [record?, hf, ht]
    have hb : (Block.leave (.success l.literal)).eval (loaderContext m env rounds)
        (((l.reads.map (·.binding)).zip (ws.map fun q => .ofValue q.2)).reverse ++ progressLocals p) =
          .returned (.loaded (.ok v)) := by
      rw [hk, List.zip_map']
      simp [Block.eval, Expr.eval, inner, hr]
    rw [successThen, eval_onlyIfAll_returned hd hb]
    rfl
  case isFalse ha =>
    cases h
    have he : loadError? (progressLocals p) = some ⟨p.missing, p.invalid⟩ := by
      simp [loadError?, lookup_missing hp, lookup_invalid hp]
    have ht : (loaderContext m env rounds).types = m.types := rfl
    rw [successThen, hl, eval_onlyIfAll_none (present?_none hv ha), Block.eval_value]
    simp [Expr.eval, ht, he, Ending.leaveCall]

theorem eval_listThen {name type : String} {isMutable : Bool} {c : Context} {l : Locals} :
    (listThen name isMutable type rest).eval c l = rest.eval c ((name, .sentinels []) :: l) :=
  eval_letIn Expr.eval_literal

-- The program of a loader returns what the loader finds.
theorem run_loaderFunction (hr : ∀ r ∈ l.reads, IsReadable m r) (hs : ∀ r ∈ l.reads, IsShort m env rounds r)
    (hn : (l.reads.map (·.binding)).Nodup) (hl : m.loader? = some l) (h : m.load env = some x) :
    (loaderFunction m.types l).run (loaderContext m env rounds) = .value (.loaded x) [] := by
  obtain ⟨l', hl', h⟩ := Option.bind_eq_some_iff.mp h
  obtain rfl := Option.some.inj (hl.symm.trans hl')
  obtain ⟨p, hp, h⟩ := Option.bind_eq_some_iff.mp h
  have hb : Module.Progress.start.values.map (·.1) = [] := rfl
  obtain ⟨he, hv⟩ := eval_reads (successThen l (.value (.failure m.types.loadError))) (by simp [hb]) hr hs hp
  have hk : p.values.map (·.1) = l.reads.map (·.binding) := hv
  have hx : ∀ x ∈ p.values.map (·.1), IsValueName x := hk ▸ List.forall_mem_map.mpr fun r hr' => (hr r hr').name
  rw [Function.run, loaderFunction, loaderBody]
  split
  case h_1 hz =>
    rw [hz] at hp
    cases hp
    obtain ⟨v, ht, rfl⟩ := Option.map_eq_some_iff.mp h
    have hr : record? [] l.literal = some v := ht
    rw [Block.eval_value]
    simp [Expr.eval, hr, Ending.leaveCall]
  case h_2 =>
    rw [eval_listThen, eval_listThen]
    exact (congrArg (Ending.leaveCall []) he).trans (run_finish hk.symm (hk ▸ hn) hx h)

end

section Built

variable {c : Catalog} {root project title : String} {f : Flattened} {o : ModuleOptions}

theorem isValueName_binding (path : FieldPath) : IsValueName path.binding := by
  have hb : path.binding.toList.head? = some 'v' := by simp [FieldPath.binding]
  constructor <;> intro h <;> rw [h] at hb <;> exact absurd hb (by decide)

theorem isReadable_leafRead {l : Leaf} (hm : m.helpers = Module.helpersFor f.leaves) (hl : l ∈ f.leaves) :
    IsReadable m (Module.leafRead l l.names) := by
  refine ⟨isValueName_binding l.path, ?parsing, ?helper⟩
  case parsing =>
    intro i hi
    obtain ⟨_, _, rfl⟩ := Option.map_eq_some_iff.mp hi
    rfl
  case helper =>
    intro i hi k hk
    obtain ⟨_, _, rfl⟩ := Option.map_eq_some_iff.mp hi
    exact hm ▸ Module.mem_helpersFor.mpr ⟨l, hl, hk⟩

-- The loader of a module is written as a program that returns what the module's loader finds. Its loops take
-- no more rounds than the longest of the values has characters.
theorem runs_of_build (hf : c.flatten root project = .ok f) (hu : Uniqueness.check f.leaves = .ok ())
    (hm : Module.build title f o = .ok m) :
    ∃ l, m.loader? = some l ∧
      (Module.itemCode m.types (.loader l)).dense.toList = solid (loaderFunction m.types l).text ∧
      ∀ env rounds, (∀ l ∈ f.leaves, ∀ octets, env l.key = some octets →
        (Text.Utf8.decodeLossy octets).length ≤ rounds) →
        ∃ x, m.load env = some x ∧
          (loaderFunction m.types l).run (loaderContext m env rounds) = .value (.loaded x) [] := by
  obtain ⟨r, rfl, he, s⟩ := Module.serves_of_build hf hu hm
  obtain ⟨l, hl, hr, -⟩ := s.declares.loader
  refine ⟨l, hl, dense_itemCode rfl, fun env rounds hn => ⟨_, s.load_eq env, ?_⟩⟩
  have hk := Module.helpers_eq (Catalog.nameable_of_flatten hf) hm
  refine run_loaderFunction ?readable ?short ?distinct hl (s.load_eq env)
  case readable =>
    rw [hr]
    exact List.forall_mem_map.mpr fun l hl => isReadable_leafRead hk hl
  case short =>
    rw [hr]
    refine List.forall_mem_map.mpr fun l hl key octets hc => ?_
    obtain rfl := Option.some.inj ((s.declares.key?_eq hl).symm.trans hc)
    exact hn l hl octets
  case distinct =>
    rw [hr, List.map_map]
    exact s.bindings_nodup

end Built

end EnvConfig.Program
