import EnvConfig.Proofs.DurationRuns

-- The program that makes a value of a text makes the value that is read from the text.

namespace EnvConfig.Program

variable {c : Context} {l : Locals} {s : List Char} {e : Expr} {p type wide : Primitive} {x : Option Int}

theorem eval_readNumber (h : l.lookup "raw" = some (.text s)) :
    (readNumber p).eval c l = .value (.ofOption (parsed? p s)) l :=
  eval_unary (eval_unary (eval_name h) rfl) (by cases parsed? p s <;> rfl)

theorem eval_withoutPlus (h : l.lookup "raw" = some (.text s))
    (he : e.eval c l = .value (.ofOption (x.map .int)) l) :
    (withoutPlus e).eval c l =
      .value (.ofOption ((x.filter fun _ => !s.head?.any (CharPattern.one '+').accepts).map .int)) l := by
  refine eval_filter he fun n => ⟨("_", .int n) :: l, ?_⟩
  rw [Block.eval_value]
  exact eval_unary (eval_unary (eval_name h) rfl) rfl

theorem eval_narrowed (he : e.eval c l = .value (.ofOption (x.map .int)) l) :
    (narrowed wide type e).eval c l = .value (.ofOption ((x.filter type.holds).map .int)) l := by
  let f (n : Int) : Option Datum := if type.holds n then some (.int n) else none
  have hf : x.bind f = (x.filter type.holds).map .int := by
    cases x
    case none => rfl
    case some n => by_cases hn : type.holds n <;> simp [f, hn, Option.filter]
  rw [← hf]
  refine eval_andThen he fun n => ⟨("v", .int n) :: l, ?_⟩
  rw [Block.eval_value]
  refine eval_unary (eval_unary (eval_name rfl) rfl) ?_
  by_cases hn : type.holds n <;> simp [f, hn] <;> rfl

theorem parsed?_eq {r : IntRange} (hp : p ≠ .f64) (h : p.range? = some r) : parsed? p s = (r.read s).map .int := by
  unfold parsed?
  split
  case h_1 => exact absurd rfl hp
  case h_2 => rw [h, Option.bind_some]

theorem parsed?_signed {r : IntRange} (hp : p ≠ .f64) (h : p.range? = some r) (hl : r.low < 0) :
    parsed? p s = (((Decimal.integer? s).filter p.holds)).map .int := by
  rw [parsed?_eq hp h, IntRange.read_eq (Primitive.hasZero h), Primitive.holds_eq h]
  simp [hl]

theorem eval_narrow {narrow : Option Primitive} (he : e.eval c l = .value (.ofOption (x.map .int)) l) :
    (narrow.elim e (narrowed wide · e)).eval c l =
      .value (.ofOption ((narrow.elim x fun type => x.filter type.holds).map .int)) l := by
  cases narrow
  case none => exact he
  case some => exact eval_narrowed he

theorem integer?_eq_elim {narrow : Option Primitive} : Value.integer? wide narrow s =
    narrow.elim ((Decimal.integer? s).filter wide.holds) fun type =>
      ((Decimal.integer? s).filter wide.holds).filter type.holds := by
  unfold Value.integer?
  generalize (Decimal.integer? s).filter wide.holds = x
  cases narrow <;> cases x <;> simp [Option.filter]

-- The number that is read of a text without a sign.
def plainInteger? (s : List Char) : Option Int :=
  if s.head? = some '+' ∨ s.head? = some '-' then none else (Decimal.integer? s).filter Primitive.u64.holds

theorem filter_read_eq :
    ((IntRange.unsigned 64).read s).filter (fun _ => !s.head?.any (CharPattern.one '+').accepts) =
      plainInteger? s := by
  rw [IntRange.read_eq (Primitive.hasZero (p := .u64) rfl), any_one, ← Primitive.holds_eq (p := .u64) rfl,
    plainInteger?]
  by_cases hp : s.head? = some '+'
  case pos => simp [hp]
  case neg =>
    have hf (o : Option Int) : o.filter (fun _ => true) = o := by cases o <;> rfl
    by_cases hm : s.head? = some '-' <;> simp [hp, hm, hf, IntRange.unsigned]

theorem read_unsigned {r : Parsing} (hr : r.parse = .unsigned) :
    r.read s = (r.narrow.elim (plainInteger? s) fun type => (plainInteger? s).filter type.holds).map .int := by
  by_cases hs : s.head? = some '+' ∨ s.head? = some '-'
  case pos => cases r.narrow <;> simp [Parsing.read, hr, plainInteger?, hs]
  case neg => simp [Parsing.read, hr, plainInteger?, hs, integer?_eq_elim, Parse.wide]

-- The value of an expression is the one that a text has.
def Expr.Reads (e : Expr) (c : Context) (l : Locals) (r : Parsing) (s : List Char) : Prop :=
  e.eval c l = .value (.ofOption ((r.read s).map .ofValue)) l

section

variable {r : Parsing} (h : l.lookup "raw" = some (.text s))
include h

theorem reads_raw (hr : r.parse = .raw) : (valueOf r).Reads c l r s := by
  simp only [Expr.Reads, valueOf, Parsing.read, hr]
  have ho : Unary.some.apply (.text s) = .value (.some (.text s)) := rfl
  exact eval_unary (eval_unary (eval_name h) rfl) (by simp [ho, Datum.ofValue, Datum.ofOption])

theorem reads_signed (hr : r.parse = .word ∨ r.parse = .signed) : (valueOf r).Reads c l r s := by
  have hp : parsed? r.parse.wide s = ((Decimal.integer? s).filter r.parse.wide.holds).map .int := by
    obtain hr | hr := hr <;> rw [hr] <;> exact parsed?_signed (by decide) rfl (by decide)
  have he : (valueOf r).eval c l = .value (.ofOption ((Value.integer? r.parse.wide r.narrow s).map .int)) l := by
    have hq : (readNumber r.parse.wide).eval c l = _ := eval_readNumber h
    rw [hp] at hq
    rw [integer?_eq_elim]
    obtain hr | hr := hr <;> rw [valueOf, hr] <;> rw [hr] at hq <;> exact eval_narrow hq
  have hv : (r.read s) = (Value.integer? r.parse.wide r.narrow s).map .int := by
    obtain hr | hr := hr <;> rw [Parsing.read, hr]
  rw [Expr.Reads, he, hv, Option.map_map]
  rfl

theorem reads_unsigned (hr : r.parse = .unsigned) : (valueOf r).Reads c l r s := by
  have hn : (readNumber .u64).eval c l = .value (.ofOption (((IntRange.unsigned 64).read s).map .int)) l := by
    rw [← parsed?_eq (p := .u64) (by decide) rfl]
    exact eval_readNumber h
  have hq : (withoutPlus (readNumber .u64)).eval c l = _ := eval_withoutPlus h hn
  rw [filter_read_eq] at hq
  rw [Expr.Reads, read_unsigned hr, Option.map_map, valueOf, hr]
  exact eval_narrow hq

omit h in
theorem dropWhile_signs :
    s.dropWhile (CharPattern.any ['+', '-']).accepts = s.dropWhile fun a => a = '+' || a = '-' := by
  congr 1
  funext a
  simp [CharPattern.accepts]

theorem eval_notOverflown {y : Option Floating} {datum : Floating → Datum}
    (hd : datum = .double ∨ datum = .single) (he : e.eval c l = .value (.ofOption (y.map datum)) l) :
    (notOverflown e).eval c l = .value (.ofOption ((y.filter (Value.finiteOrNamed s)).map datum)) l := by
  refine eval_filter he fun v => ?_
  let spelled := s.dropWhile (CharPattern.any ['+', '-']).accepts
  refine ⟨("spelled", .text spelled) :: ("v", datum v) :: l, ?_⟩
  have hs : (Expr.name "raw").eval c (("v", datum v) :: l) = .value (.text s) (("v", datum v) :: l) := eval_name h
  rw [eval_letIn (eval_unary hs rfl), Block.eval_value]
  have hv : Value.finiteOrNamed s v = (!v.isInfinite ||
      decide (Floating.asciiLower spelled = Floating.asciiLower "inf".toList) ||
      decide (Floating.asciiLower spelled = Floating.asciiLower "infinity".toList)) := by
    have hi : Floating.asciiLower "inf".toList = "inf".toList := by decide
    have hn : Floating.asciiLower "infinity".toList = "infinity".toList := by decide
    rw [hi, hn, Bool.or_assoc]
    simp only [Value.finiteOrNamed, Floating.namesInfinity, Floating.isInfinityName, spelled, dropWhile_signs]
  rw [hv]
  have hi : Unary.isInfinite.apply (datum v) = .value (.bool v.isInfinite) := by obtain rfl | rfl := hd <;> rfl
  exact eval_either (eval_either (eval_unary (eval_unary (eval_name rfl) hi) rfl) (eval_unary (eval_name rfl) rfl))
    (eval_unary (eval_name rfl) rfl)

omit h in
theorem eval_cast {y : Option Floating} (he : e.eval c l = .value (.ofOption (y.map .double)) l) :
    (cast .f32 e).eval c l = .value (.ofOption ((y.map FloatFormat.single.convert).map .single)) l := by
  rw [Option.map_map]
  refine eval_map he fun v => ⟨("v", .double v) :: l, ?_⟩
  rw [Block.eval_value]
  exact eval_unary (eval_name rfl) rfl

theorem reads_float (hr : r.parse = .float) (hn : r.narrow = none ∨ r.narrow = some .f32) :
    (valueOf r).Reads c l r s := by
  let x := Floating.ofText? .double s
  have hq : (readNumber .f64).eval c l = .value (.ofOption (x.map .double)) l := eval_readNumber h
  obtain hn | hn := hn
  case inl =>
    have hv : (r.read s).map Datum.ofValue = (x.filter (Value.finiteOrNamed s)).map .double := by
      cases hx : Floating.ofText? .double s <;>
        simp [x, hx, Parsing.read, hr, hn, Option.filter, Datum.ofValue, apply_ite]
    rw [Expr.Reads, hv, valueOf, hr, hn]
    exact eval_notOverflown h (.inl rfl) hq
  case inr =>
    have hv : (r.read s).map Datum.ofValue =
        ((x.map FloatFormat.single.convert).filter (Value.finiteOrNamed s)).map .single := by
      cases hx : Floating.ofText? .double s <;>
        simp [x, hx, Parsing.read, hr, hn, Option.filter, Datum.ofValue, apply_ite]
    rw [Expr.Reads, hv, valueOf, hr, hn]
    exact eval_notOverflown h (.inr rfl) (eval_cast hq)

omit h in
theorem boolFunction_call (c : Context) (s : List Char) :
    boolFunction.call c (.text s) = .value (.ofOption ((Value.bool? s).map .bool)) [] := by
  have hr : (Expr.name "raw").eval c [("raw", .text s)] = .value (.text s) [("raw", .text s)] := eval_name rfl
  rw [Function.call, boolFunction, Block.eval_value, eval_onText hr, Value.bool?]
  simp only [Arms.eval]
  split
  case isTrue => rw [eval_some]; rfl
  case isFalse =>
    split
    case isTrue  => rw [eval_some]; rfl
    case isFalse => rw [Expr.eval_literal]; rfl

-- A helper can be called by its name. It is given as many rounds as its caller.
def Context.Calls (c : Context) (k : Helper) : Prop :=
  ∃ c' : Context, c'.rounds = c.rounds ∧ c.function? k.name = some ((helperFunction k).call c')

theorem reads_bool (hr : r.parse = .bool) (hc : c.Calls .bool) : (valueOf r).Reads c l r s := by
  obtain ⟨c', -, hf⟩ := hc
  simp only [Expr.Reads, valueOf, Parsing.read, hr, Option.map_map]
  exact eval_call (eval_unary (eval_name h) rfl) hf (boolFunction_call c' s)

theorem reads_duration (hr : r.parse = .duration) (hc : c.Calls .duration) (hs : s.length ≤ c.rounds) :
    (valueOf r).Reads c l r s := by
  obtain ⟨c', hn, hf⟩ := hc
  simp only [Expr.Reads, valueOf, Parsing.read, hr, Option.map_map]
  exact eval_call (eval_unary (eval_name h) rfl) hf (durationFunction_call (hn ▸ hs))

-- The value of a text is read, whatever its type is, if the helper for the type can be called.
theorem reads_primitive (p : Primitive) (hc : ∀ k, p.parsing.parse.helper? = some k → c.Calls k)
    (hs : s.length ≤ c.rounds) : (valueOf p.parsing).Reads c l p.parsing s := by
  cases hp : p.parsing.parse
  case raw => exact reads_raw h hp
  case bool => exact reads_bool h hp (hc .bool (by rw [hp]; rfl))
  case word => exact reads_signed h (.inl hp)
  case signed => exact reads_signed h (.inr hp)
  case unsigned => exact reads_unsigned h hp
  case float => exact reads_float h hp (by cases p <;> cases hp <;> decide)
  case duration => exact reads_duration h hp (hc .duration (by rw [hp]; rfl)) hs

end

end EnvConfig.Program
