import EnvConfig.Program.Loader

-- How programs are run, one construct at a time. What is done to a value that is there or not is stated for
-- both at once.

namespace EnvConfig.Program

section

variable {α β : Type} {l l' : Locals} {a : α}

@[simp]
theorem Ending.value_bind (f : α → Exec β) : (Ending.value a l).bind f = f a l :=
  rfl

@[simp]
theorem Ending.returned_bind {d : Datum} (f : α → Exec β) :
    (Ending.returned d : Ending α).bind f = .returned d :=
  rfl

@[simp]
theorem Ending.broken_bind (f : α → Exec β) : (Ending.broken l : Ending α).bind f = .broken l :=
  rfl

@[simp]
theorem Ending.ofOption_some : Ending.ofOption l (some a) = .value a l :=
  rfl

@[simp]
theorem Ending.ofOutcome_value : Ending.ofOutcome l (.value a) = .value a l :=
  rfl

namespace Exec

@[simp]
theorem discard_apply (x : Exec α) : (discard x) l = (x l).bind fun _ => pure () :=
  rfl

@[simp]
theorem locals_apply : locals l = .value l l :=
  rfl

@[simp]
theorem declare_apply {x : String} {d : Datum} : declare x d l = .value () ((x, d) :: l) :=
  rfl

theorem assign_apply {x : String} {d : Datum} (h : l.assign x d = some l') : assign x d l = .value () l' := by
  simp [assign, h]

@[simp]
theorem ofOption_apply (x : Option α) : ofOption x l = .ofOption l x :=
  rfl

@[simp]
theorem ofOutcome_apply (x : Duration.Outcome α) : ofOutcome x l = .ofOutcome l x :=
  rfl

@[simp]
theorem leave_apply {d : Datum} : (leave d : Exec α) l = .returned d :=
  rfl

@[simp]
theorem ofBool_bool {b : Bool} : ofBool (.bool b) = pure b :=
  rfl

@[simp]
theorem block_apply (x : Exec α) : block x l = (x l).leaveBlock l :=
  rfl

theorem inRound_apply {x : String} {d : Datum} (body : Exec Datum) :
    inRound x d body l = ((body ((x, d) :: l)).leaveBlock l).bind fun _ => pure () :=
  rfl

@[simp]
theorem inPlace_apply (x : Exec Datum) : inPlace x l = (x l).leaveCall l :=
  rfl

@[simp]
theorem call_apply {f : Datum → Ending Datum} {d : Datum} : call f d l = (f d).leaveCall l :=
  rfl

end Exec

end

namespace Locals

variable {l top : Locals} {x : String} {d : Datum}

theorem lookup_above (h : top.lookup x = some d) : (top ++ l).lookup x = some d := by
  simp [List.lookup_append, h]

theorem lookup_below (h : top.lookup x = none) : (top ++ l).lookup x = l.lookup x := by
  simp [List.lookup_append, h]

theorem assign_below (h : top.lookup x = none) : (top ++ l).assign x d = (l.assign x d).map (top ++ ·) := by
  induction top
  case nil => simp
  case cons p top hi =>
    obtain ⟨y, e⟩ := p
    have hy : y ≠ x := by
      rintro rfl
      simp at h
    have hb : (x == y) = false := by simpa using hy.symm
    have ht : top.lookup x = none := by simpa only [List.lookup_cons, hb] using h
    rw [List.cons_append, assign, if_neg hy, hi ht, Option.map_map]
    rfl

end Locals

variable {c : Context} {l l' l'' : Locals} {e a b : Expr} {d d' d'' : Datum} {o : Option Datum} {x y : String}

theorem eval_name (h : l.lookup x = some d) : (Expr.name x).eval c l = .value d l := by
  simp [Expr.eval, h]

theorem eval_unary {op : Unary} (he : e.eval c l = .value d l') (ho : op.apply d = .value d') :
    (Expr.unary op e).eval c l = .value d' l' := by
  simp [Expr.eval, he, ho]

theorem eval_binary {op : Binary} (ha : a.eval c l = .value d l') (hb : b.eval c l' = .value d' l'')
    (ho : op.apply d d' = .value d'') : (Expr.binary op a b).eval c l = .value d'' l'' := by
  simp [Expr.eval, ha, hb, ho]

theorem eval_both {p q : Bool} (ha : a.eval c l = .value (.bool p) l) (hb : b.eval c l = .value (.bool q) l) :
    (Expr.both a b).eval c l = .value (.bool (p && q)) l := by
  cases p <;> simp [Expr.eval, ha, hb]

theorem eval_either {p q : Bool} (ha : a.eval c l = .value (.bool p) l) (hb : b.eval c l = .value (.bool q) l) :
    (Expr.either a b).eval c l = .value (.bool (p || q)) l := by
  cases p <;> simp [Expr.eval, ha, hb]

-- Where something may be missing, there is nothing to return, or the program goes on with it. One of these
-- rules after the other makes of a program a chain of options.
theorem eval_orReturn {α : Type} {o : Option α} {f : α → Datum}
    (he : e.eval c l = .value (.ofOption (o.map f)) l') :
    (Expr.orReturn e).eval c l = o.elim (.returned .none) fun a => .value (f a) l' := by
  cases o <;> simp [Expr.eval, he, Datum.ofOption]

theorem eval_orReturn_elim {α β : Type} {o : Option α} {f : α → Option β} {g : β → Datum}
    (he : e.eval c l = o.elim (.returned .none) fun a => .value (.ofOption ((f a).map g)) l') :
    (Expr.orReturn e).eval c l = (o.bind f).elim (.returned .none) fun b => .value (g b) l' := by
  cases o
  case none => simp [Expr.eval, he]
  case some a => exact eval_orReturn he

theorem eval_binary_elim {α : Type} {op : Binary} {o : Option α} {f g : α → Datum}
    (ha : a.eval c l = .value d l')
    (hb : b.eval c l' = o.elim (.returned .none) fun a => .value (f a) l'')
    (ho : ∀ a, op.apply d (f a) = .value (g a)) :
    (Expr.binary op a b).eval c l = o.elim (.returned .none) fun a => .value (g a) l'' := by
  cases o
  case none => simp [Expr.eval, ha, hb]
  case some => exact eval_binary ha hb (ho _)

theorem eval_onOption_some {present absent : Block} {inner : Locals} (he : e.eval c l = .value (.some d) l)
    (hp : present.eval c ((x, d) :: l) = .value d' inner) (hl : inner.drop (inner.length - l.length) = l') :
    (Expr.onOption e x present absent).eval c l = .value d' l' := by
  simp [Expr.eval, he, hp, hl, Ending.leaveBlock]

theorem eval_onOption_none {present absent : Block} (he : e.eval c l = .value .none l)
    (ha : absent.eval c l = .value d' l') (hl : l'.length = l.length) :
    (Expr.onOption e x present absent).eval c l = .value d' l' := by
  simp [Expr.eval, he, ha, hl, Ending.leaveBlock]

theorem eval_call {f : String} {g : Datum → Ending Datum} (he : e.eval c l = .value d l')
    (hf : c.function? f = some g) (hg : g d = .value d' l'') : (Expr.call f e).eval c l = .value d' l' := by
  simp [Expr.eval, he, hf, hg, Ending.leaveCall]

section

variable {α : Type} {found : Option α} {datum : α → Datum} {body : Block}

theorem eval_filter {p : α → Bool} (he : e.eval c l = .value (.ofOption (found.map datum)) l)
    (hb : ∀ a, ∃ l', body.eval c ((x, datum a) :: l) = .value (.bool (p a)) l') :
    (Expr.apply .filter e x body).eval c l = .value (.ofOption ((found.filter p).map datum)) l := by
  cases found
  case none => simp [Expr.eval, he, Datum.ofOption]
  case some a =>
    obtain ⟨l', hb⟩ := hb a
    simp only [Option.map_some, Datum.ofOption] at he
    cases hp : p a <;>
      simp [Expr.eval, he, hb, hp, Datum.ofOption, Ending.leaveCall, Combinator.result, Option.filter]

theorem eval_andThen {f : α → Option Datum} (he : e.eval c l = .value (.ofOption (found.map datum)) l)
    (hb : ∀ a, ∃ l', body.eval c ((x, datum a) :: l) = .value (.ofOption (f a)) l') :
    (Expr.apply .andThen e x body).eval c l = .value (.ofOption (found.bind f)) l := by
  cases found
  case none => simp [Expr.eval, he, Datum.ofOption]
  case some a =>
    obtain ⟨l', hb⟩ := hb a
    simp only [Option.map_some, Datum.ofOption] at he
    cases hf : f a <;> simp [Expr.eval, he, hb, hf, Datum.ofOption, Ending.leaveCall, Combinator.result]

theorem eval_map {f : α → Datum} (he : e.eval c l = .value (.ofOption (found.map datum)) l)
    (hb : ∀ a, ∃ l', body.eval c ((x, datum a) :: l) = .value (f a) l') :
    (Expr.apply .map e x body).eval c l = .value (.ofOption (found.map f)) l := by
  cases found
  case none => simp [Expr.eval, he, Datum.ofOption]
  case some a =>
    obtain ⟨l', hb⟩ := hb a
    simp [Expr.eval, he, hb, Datum.ofOption, Ending.leaveCall, Combinator.result]

end

section

variable {rest body : Block} {isMutable : Bool} {type : Option String}

theorem eval_letIn (h : e.eval c l = .value d l') :
    (Block.letIn (.name isMutable x type) e rest).eval c l = rest.eval c ((x, d) :: l') := by
  simp [Block.eval, h, Binder.declare]

theorem eval_letPair (h : e.eval c l = .value (.pair d d') l') :
    (Block.letIn (.pair x y) e rest).eval c l = rest.eval c ((y, d') :: (x, d) :: l') := by
  simp [Block.eval, h, Binder.declare]

theorem eval_letIn_elim {α : Type} {o : Option α} {f : α → Datum}
    (h : e.eval c l = o.elim (.returned .none) fun a => .value (f a) l') :
    (Block.letIn (.name isMutable x type) e rest).eval c l =
      o.elim (.returned .none) fun a => rest.eval c ((x, f a) :: l') := by
  cases o <;> simp [Block.eval, h, Binder.declare]

theorem eval_assign (h : e.eval c l = .value d l') (ha : l'.assign x d = some l'') :
    (Block.assign x e rest).eval c l = rest.eval c l'' := by
  simp [Block.eval, h, Exec.assign_apply ha]

theorem eval_assign_elim {α : Type} {o : Option α} {f : α → Datum} {locals : α → Locals}
    (h : e.eval c l = o.elim (.returned .none) fun a => .value (f a) l')
    (ha : ∀ a, l'.assign x (f a) = some (locals a)) :
    (Block.assign x e rest).eval c l = o.elim (.returned .none) fun a => rest.eval c (locals a) := by
  cases o <;> simp [Block.eval, h, Exec.assign_apply (ha _)]

theorem eval_multiply (hx : l.lookup x = some d) (h : e.eval c l = .value d' l')
    (ho : Binary.mul.apply d d' = .value d'') (ha : l'.assign x d'' = some l'') :
    (Block.multiply x e rest).eval c l = rest.eval c l'' := by
  simp [Block.eval, hx, h, ho, Exec.assign_apply ha]

theorem eval_guard {b : Bool} (h : e.eval c l = .value (.bool b) l) (ha : a.eval c l = .value d l) :
    (Block.onlyIf e (.leave a) rest).eval c l = if b then .returned d else rest.eval c l := by
  cases b <;> simp [Block.eval, h, ha, Ending.leaveBlock]

theorem eval_onlyIf_false (h : e.eval c l = .value (.bool false) l') :
    (Block.onlyIf e body rest).eval c l = rest.eval c l' := by
  simp [Block.eval, h]

theorem eval_onlyIf_true (h : e.eval c l = .value (.bool true) l') (hb : body.eval c l' = .value d l'') :
    (Block.onlyIf e body rest).eval c l = rest.eval c (l''.drop (l''.length - l'.length)) := by
  simp [Block.eval, h, hb, Ending.leaveBlock]

theorem eval_stopIf (h : e.eval c l = .value (.bool true) l) :
    (Block.onlyIf e .stop rest).eval c l = .broken l := by
  simp [Block.eval, h, Exec.stop, Ending.leaveBlock]

theorem eval_onlyIf_returned (h : e.eval c l = .value (.bool true) l') (hb : body.eval c l' = .returned d) :
    (Block.onlyIf e body rest).eval c l = .returned d := by
  simp [Block.eval, h, hb, Ending.leaveBlock]

end

theorem eval_whileTrue {body rest : Block} :
    (Block.whileTrue e body rest).eval c l =
      (Exec.loop c.rounds (do Exec.ofBool (← e.eval c)) (discard (Exec.block (body.eval c))) l).leaveLoop.bind
        fun _ => rest.eval c := by
  rw [Block.eval]
  rfl

theorem eval_letFunction {body : Expr} {rest : Block} {f : String} :
    (Block.letFunction f x body rest).eval c l = rest.eval (c.withFunction f fun d => body.eval c [(x, d)]) l := by
  rw [Block.eval]

theorem eval_forEach {body rest : Block} {bs : List UInt8} (he : e.eval c l = .value (.octets bs) l')
    (hb : (Exec.forOctets (fun b => Exec.inRound x (.byte b) (body.eval c)) bs l').leaveLoop = .value () l'') :
    (Block.forEach x e body rest).eval c l = rest.eval c l'' := by
  simp [Block.eval, he, Exec.untilStop, hb]

theorem eval_onText {arms : Arms} {s : List Char} (he : e.eval c l = .value (.text s) l') :
    (Expr.onText e arms).eval c l = arms.eval c s l' := by
  simp [Expr.eval, he]

section

variable {rest body : Block} {type variant : String} {names : List String} {ds : List Datum}

theorem eval_push (hx : l.lookup x = some d) (hd : c.pushed? type variant d = some d')
    (ha : l.assign x d' = some l') : (Block.push x type variant rest).eval c l = rest.eval c l' := by
  simp [Block.eval, hx, hd, Exec.assign_apply ha]

theorem forM_declare {locals : Locals} :
    (forM locals fun q => Exec.declare q.1 q.2) l = .value () (locals.reverse ++ l) := by
  induction locals generalizing l
  case nil => rfl
  case cons p locals hi => simp [hi]

theorem eval_onlyIfAll_none (h : present? l names = some none) :
    (Block.onlyIfAll names body rest).eval c l = rest.eval c l := by
  simp [Block.eval, h]

theorem eval_onlyIfAll_returned (h : present? l names = some (some ds))
    (hb : body.eval c ((names.zip ds).reverse ++ l) = .returned d) :
    (Block.onlyIfAll names body rest).eval c l = .returned d := by
  simp [Block.eval, h, forM_declare, hb, Ending.leaveBlock]

end

theorem eval_some {literal : Literal} :
    (Expr.unary .some (.literal literal)).eval c l = .value (.some literal.datum) l :=
  eval_unary Expr.eval_literal rfl

theorem ok_apply : Unary.ok.apply (.ofResult o) = .value (.ofOption o) := by
  cases o <;> rfl

theorem any_one {s : List Char} {a : Char} :
    s.head?.any (CharPattern.one a).accepts = decide (s.head? = some a) := by
  cases s <;> simp [CharPattern.accepts]

end EnvConfig.Program
