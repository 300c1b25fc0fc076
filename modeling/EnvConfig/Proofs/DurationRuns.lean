import EnvConfig.Proofs.Execution
import EnvConfig.Proofs.Faults
import EnvConfig.Proofs.Integers
import Mathlib.Data.List.TakeWhile

-- The helper for durations finds the duration that is read of a text, and nothing goes wrong on the way.

namespace EnvConfig.Program

open Duration Octets

variable {c : Context} {l top : Locals} {e : Expr} {s tail decimals : List Char} {rest : Block}

theorem position_of_not_any {p : Char → Bool} (h : ¬s.any p) : position p s = (encode s).length := by
  have hs : s.takeWhile (!p ·) = s := List.takeWhile_eq_self_iff.mpr (by simpa using h)
  rw [position_eq, hs]

theorem eval_lengthUpTo {t : CharTest} (he : e.eval c l = .value (.text s) l) :
    (lengthUpTo t e).eval c l = .value (.word (position t.holds s)) l := by
  by_cases hs : s.any t.holds
  case pos =>
    have hf : (Unary.find t).apply (.text s) = .value (.some (.word (position t.holds s))) :=
      congrArg Outcome.value (if_pos hs)
    exact eval_binary (eval_unary he hf) (eval_unary he rfl) rfl
  case neg =>
    have hf : (Unary.find t).apply (.text s) = .value .none := congrArg Outcome.value (if_neg hs)
    rw [position_of_not_any hs]
    exact eval_binary (eval_unary he hf) (eval_unary he rfl) rfl

theorem splitAt_apply {p : Char → Bool} : Binary.splitAt.apply (.text s) (.word (position p s)) =
    .value (.pair (.text (s.takeWhile (!p ·))) (.text (s.dropWhile (!p ·)))) :=
  let pair (q : List Char × List Char) : Datum := .pair (.text q.1) (.text q.2)
  congrArg (pair <$> ·) splitAt_position

-- There is a function for the length of the digits at the start of a text.
def Context.CountsDigits (c : Context) : Prop :=
  ∃ f, c.function? "digits" = some f ∧ ∀ s, ∃ l, f (.text s) = .value (.word (position nonDigit s)) l

theorem eval_cutDigits (hc : c.CountsDigits) (he : e.eval c l = .value (.text s) l) :
    (cutDigits e).eval c l =
      .value (.pair (.text (s.takeWhile Char.isDigit)) (.text (s.dropWhile Char.isDigit))) l := by
  obtain ⟨f, hf, hs⟩ := hc
  obtain ⟨l', hs⟩ := hs s
  rw [← Machine.not_nonDigit]
  exact eval_binary he (eval_call he hf hs) splitAt_apply

theorem eval_cutDecimals (hc : c.CountsDigits) (he : e.eval c l = .value (.text s) l)
    (hs : Machine.decimals s = .value (decimals, tail)) :
    (cutDecimals e).eval c l = .value (.pair (.text decimals) (.text tail)) l := by
  cases s
  case nil =>
    cases hs
    exact eval_onOption_none (eval_unary he rfl) (eval_binary Expr.eval_literal he rfl) rfl
  case cons a s =>
    by_cases ha : a = '.'
    case pos =>
      subst ha
      have hd : (cutDigits "after").eval c (("after", .text s) :: l) = _ := eval_cutDigits hc (eval_name rfl)
      cases (Machine.decimals_eq _).symm.trans hs
      exact eval_onOption_some (eval_unary he rfl) hd (by simp)
    case neg =>
      have hp : (Unary.stripPrefix (.one '.')).apply (.text (a :: s)) = .value .none :=
        congrArg Outcome.value (if_neg (by simp [CharPattern.accepts, ha]))
      cases (show Machine.decimals (a :: s) = .value ([], a :: s) by simp [Machine.decimals, ha]).symm.trans hs
      exact eval_onOption_none (eval_unary he hp) (eval_binary Expr.eval_literal he rfl) rfl

theorem eval_numberThen (hc : c.CountsDigits) (hl : l.lookup "rest" = some (.text s))
    (hs : Machine.decimals (s.dropWhile Char.isDigit) = .value (decimals, tail)) :
    (numberThen rest).eval c l =
      if (s.takeWhile Char.isDigit).isEmpty && decimals.isEmpty then .returned .none
      else rest.eval c (("tail", .text tail) :: ("fraction", .text decimals) ::
        ("tail", .text (s.dropWhile Char.isDigit)) :: ("whole", .text (s.takeWhile Char.isDigit)) :: l) := by
  rw [numberThen, eval_letPair (eval_cutDigits hc (eval_name hl)),
    eval_letPair (eval_cutDecimals hc (eval_name rfl) hs)]
  exact eval_guard (eval_both (eval_unary (eval_name rfl) rfl) (eval_unary (eval_name rfl) rfl)) Expr.eval_literal

theorem eval_scaleOfUnit :
    scaleOfUnit.eval c s l = (unit? s).elim (.returned .none) fun scale => .value (.word scale) l := by
  unfold unit?
  generalize hs : String.ofList s = unit
  split <;> simp_all [scaleOfUnit, Arms.eval, Expr.eval, Literal.datum]

theorem eval_unitThen (hl : l.lookup "tail" = some (.text s)) :
    (unitThen rest).eval c l = (unit? (s.takeWhile (!Component.isUnitEnd ·))).elim (.returned .none) fun scale =>
      rest.eval c (("scale", .word scale) :: ("tail", .text (s.dropWhile (!Component.isUnitEnd ·))) ::
        ("unit", .text (s.takeWhile (!Component.isUnitEnd ·))) ::
        ("unit_len", .word (position Component.isUnitEnd s)) :: l) := by
  have ht : (CharTest.either (.is '.') .isDigit).holds = Component.isUnitEnd := rfl
  have hn : (Expr.name "tail").eval c (("unit_len", .word (position Component.isUnitEnd s)) :: l) = _ :=
    eval_name hl
  rw [unitThen, eval_letIn (eval_lengthUpTo (eval_name hl)), ht,
    eval_letPair (eval_binary hn (eval_name rfl) splitAt_apply)]
  exact eval_letIn_elim ((eval_onText (eval_name rfl)).trans eval_scaleOfUnit)

-- What is still unread, and the sum so far.
def sumLocals (s : List Char) (total : Nat) (l : Locals) : Locals :=
  ("total", .word total) :: ("rest", .text s) :: l

-- What a component has been cut into, above these.
structure HasCut (top : Locals) (p : Component) (scale : Nat) (tail : List Char) : Prop where
  whole    : top.lookup "whole" = some (.text p.whole)
  fraction : top.lookup "fraction" = some (.text p.fraction)
  scale    : top.lookup "scale" = some (.word scale)
  tail     : top.lookup "tail" = some (.text tail)
  total    : top.lookup "total" = none
  rest     : top.lookup "rest" = none

theorem contains_unsigned {bits n : Nat} :
    (IntRange.unsigned bits).contains n = decide (n < Nat.pow 2 bits) := by
  rw [Bool.eq_iff_iff, IntRange.contains_iff, decide_eq_true_iff]
  change 0 ≤ (n : Int) ∧ (n : Int) ≤ (Nat.pow 2 bits : Nat) - 1 ↔ n < Nat.pow 2 bits
  omega

theorem parseWord_apply (hd : ∀ a ∈ s, a.isDigit) (hn : s ≠ []) :
    Unary.parseWord.apply (.text s) = .value (.ofResult ((checked (Decimal.ofDigits s)).map .word)) := by
  have hz : (IntRange.unsigned 128).HasZero := ⟨by decide, by decide⟩
  have hh := Decimal.head?_of_isDigit hd
  have hw (n : Nat) : (IntRange.unsigned 128).contains n = decide (n < wordLimit) := contains_unsigned
  have hr : (IntRange.unsigned 128).read s = (checked (Decimal.ofDigits s)).map Int.ofNat := by
    rw [IntRange.read_eq hz, if_neg fun h => hh.left h.left, Decimal.integer?_plain hh]
    have hs : Decimal.natural? s = some (Decimal.ofDigits s) := by simp_all [Decimal.natural?]
    by_cases hl : Decimal.ofDigits s < wordLimit <;> simp [hs, checked, hw, hl, Option.filter]
  change Outcome.value (Datum.ofResult (((IntRange.unsigned 128).read s).map fun n => Datum.word n.toNat)) = _
  rw [hr, Option.map_map]
  rfl

section

variable {p : Component} {scale total : Nat}

theorem eval_addWhole (h : HasCut top p scale tail) (hd : ∀ a ∈ p.whole, a.isDigit) (hn : p.whole ≠ []) :
    addWhole.eval c (top ++ sumLocals s total l) =
      (checked (Decimal.ofDigits p.whole)).elim (.returned .none) fun whole =>
        ((checked (whole * scale)).bind fun units => checked (total + units)).elim (.returned .none) fun total =>
          .value .unit (("whole", .word whole) :: top ++ sumLocals s total l) := by
  have hw : (Expr.name "whole").eval c (top ++ sumLocals s total l) = _ := eval_name (Locals.lookup_above h.whole)
  refine (eval_letIn_elim (eval_orReturn (eval_unary (eval_unary hw (parseWord_apply hd hn)) ok_apply))).trans ?_
  congr 1
  funext whole
  let inner : Locals := ("whole", .word whole) :: top ++ sumLocals s total l
  have ht : (Expr.name "total").eval c inner = .value (.word total) inner :=
    eval_name (Locals.lookup_below h.total)
  have hs : (Expr.name "scale").eval c inner = .value (.word scale) inner :=
    eval_name (Locals.lookup_above h.scale)
  have hm : (Expr.orReturn (.binary .checkedMul "whole" "scale")).eval c inner = _ :=
    eval_orReturn (eval_binary (eval_name rfl) hs rfl)
  have ha (units : Nat) : Binary.checkedAdd.apply (.word total) (.word units) =
      .value (.ofOption ((checked (total + units)).map .word)) := rfl
  exact eval_assign_elim (eval_orReturn_elim (eval_binary_elim ht hm ha)) fun _ => Locals.assign_below h.total

-- The sum with the whole units of a component. Without digits in front of its point, it has none.
def withWhole (p : Component) (scale total : Nat) : Option Nat :=
  if p.whole.isEmpty then some total
  else (checked (Decimal.ofDigits p.whole)).bind fun whole =>
    (checked (whole * scale)).bind fun units => checked (total + units)

theorem eval_whole (h : HasCut top p scale tail) (hd : ∀ a ∈ p.whole, a.isDigit) :
    (Block.onlyIf (.unary .not (.unary .isEmpty "whole")) addWhole rest).eval c (top ++ sumLocals s total l) =
      (withWhole p scale total).elim (.returned .none) fun total => rest.eval c (top ++ sumLocals s total l) := by
  have hw : (Expr.unary .not (.unary .isEmpty "whole")).eval c (top ++ sumLocals s total l) = _ :=
    eval_unary (eval_unary (eval_name (Locals.lookup_above h.whole)) rfl) rfl
  by_cases hn : p.whole.isEmpty
  case pos =>
    simp only [hn] at hw
    rw [eval_onlyIf_false hw, withWhole, if_pos hn]
    rfl
  case neg =>
    simp only [hn] at hw
    have ha : addWhole.eval c (top ++ sumLocals s total l) = _ := eval_addWhole h hd (by simpa using hn)
    rw [withWhole, if_neg hn]
    cases hc : checked (Decimal.ofDigits p.whole)
    case none =>
      rw [hc] at ha
      exact eval_onlyIf_returned hw ha
    case some whole =>
      rw [hc, Option.elim_some] at ha
      rw [Option.bind_some]
      cases hu : (checked (whole * scale)).bind fun units => checked (total + units)
      case none =>
        rw [hu] at ha
        exact eval_onlyIf_returned hw ha
      case some =>
        rw [hu] at ha
        rw [eval_onlyIf_true hw ha]
        simp [sumLocals]

-- The fraction so far, as the local variables hold it.
def fractionLocals (fraction : Nat × Nat) (l : Locals) : Locals :=
  ("denominator", .word fraction.2) :: ("numerator", .word fraction.1) :: l

@[simp]
theorem length_fractionLocals {fraction : Nat × Nat} : (fractionLocals fraction l).length = l.length + 2 :=
  rfl

theorem distance_lt {a b : UInt8} {n : Nat} (h : Word.distance a b = .value n) : n < 256 := by
  unfold Word.distance at h
  split at h
  case isTrue => cases h; exact (a - b).toNat_lt
  case isFalse => cases h

theorem eval_isExact {fraction : Nat × Nat} {b : UInt8} :
    isExact.eval c (("digit", .byte b) :: fractionLocals fraction l) =
      .value (.bool (decide (fraction.2 ≥ 1_000_000_000_000_000_000)))
        (("digit", .byte b) :: fractionLocals fraction l) :=
  eval_binary (eval_name rfl) Expr.eval_literal rfl

theorem inRound_addDigit_of_ge {b : UInt8} {num den : Nat} (h : den ≥ 1_000_000_000_000_000_000) :
    Exec.inRound "digit" (.byte b) (addDigit.eval c) (fractionLocals (num, den) l) =
      .broken (fractionLocals (num, den) l) := by
  let inner : Locals := ("digit", .byte b) :: fractionLocals (num, den) l
  have hc : isExact.eval c inner = .value (.bool true) inner := by rw [← decide_eq_true h]; exact eval_isExact
  have hr : addDigit.eval c inner = .broken inner := eval_stopIf hc
  simp [Exec.inRound_apply, inner, hr, Ending.leaveBlock]

-- Nothing goes wrong with a digit with which nothing goes wrong on the machine.
theorem inRound_addDigit {b : UInt8} {num den shifted digit num' den' : Nat}
    (h : ¬den ≥ 1_000_000_000_000_000_000) (hm : Word.mul num 10 = .value shifted)
    (hb : Word.distance b 48 = .value digit) (ha : Word.add shifted digit = .value num')
    (hd : Word.mul den 10 = .value den') :
    Exec.inRound "digit" (.byte b) (addDigit.eval c) (fractionLocals (num, den) l) =
      .value () (fractionLocals (num', den') l) := by
  let inner : Locals := ("digit", .byte b) :: fractionLocals (num, den) l
  have hc : isExact.eval c inner = .value (.bool false) inner := by rw [← decide_eq_false h]; exact eval_isExact
  have hs : (Expr.unary .ofByte (.binary .sub "digit" (.literal (.byte '0')))).eval c inner =
      .value (.word digit) inner := by
    have hs : Binary.sub.apply (.byte b) (.byte 48) = .value (.byte (.ofNat digit)) :=
      congrArg ((fun n => Datum.byte (.ofNat n)) <$> ·) hb
    have ho : Unary.ofByte.apply (.byte (.ofNat digit)) = .value (.word digit) :=
      congrArg (fun n => Outcome.value (Datum.word n)) (Nat.mod_eq_of_lt (distance_lt hb))
    exact eval_unary (eval_binary (eval_name rfl) Expr.eval_literal hs) ho
  have hn : Binary.mul.apply (.word num) (.word 10) = .value (.word shifted) :=
    congrArg (Datum.word <$> ·) hm
  have hp : Binary.add.apply (.word shifted) (.word digit) = .value (.word num') :=
    congrArg (Datum.word <$> ·) ha
  have hq : Binary.mul.apply (.word den) (.word 10) = .value (.word den') := congrArg (Datum.word <$> ·) hd
  have hr : addDigit.eval c inner = .value .unit (("digit", .byte b) :: fractionLocals (num', den') l) := by
    rw [addDigit, eval_onlyIf_false hc,
      eval_assign (eval_binary (eval_binary (eval_name rfl) Expr.eval_literal hn) hs hp) rfl,
      eval_multiply rfl Expr.eval_literal hq rfl, Block.eval]
    rfl
  simp [Exec.inRound_apply, inner, hr, Ending.leaveBlock]

-- By induction on the digits. One that no longer counts leaves the loop, as on the machine.
theorem forOctets_addDigit {bs : List UInt8} {fraction fraction' : Nat × Nat}
    (h : Machine.readFraction bs fraction = .value fraction') :
    (Exec.forOctets (fun b => Exec.inRound "digit" (.byte b) (addDigit.eval c)) bs
      (fractionLocals fraction l)).leaveLoop = .value () (fractionLocals fraction' l) := by
  induction bs generalizing fraction
  case nil => cases h; rfl
  case cons b bs hi =>
    obtain ⟨num, den⟩ := fraction
    rw [Machine.readFraction] at h
    split at h
    case isTrue hd =>
      cases h
      simp [Exec.forOctets, inRound_addDigit_of_ge hd, Ending.leaveLoop]
    case isFalse hd =>
      simp only [Outcome.bind_eq_value] at h
      obtain ⟨shifted, hm, digit, hb, num', ha, den', hd', h⟩ := h
      simp [Exec.forOctets, inRound_addDigit hd hm hb ha hd', hi h]

-- Arithmetic that is done on the machine is done in the program.
theorem exists_of_fractionOf {n : Nat} {ds : List Char} (hf : ∀ a ∈ ds, a.isDigit)
    (h : Machine.fractionOf scale ds = .value n) :
    ∃ m, Binary.mul.apply (.word (fraction ds).1) (.word scale) = .value (.word m) ∧
      Binary.div.apply (.word m) (.word (fraction ds).2) = .value (.word n) := by
  simp only [Machine.fractionOf, Machine.readFraction_eq .start hf, Outcome.value_bind] at h
  obtain ⟨m, hm, hd⟩ := Outcome.bind_eq_value.mp h
  exact ⟨m, congrArg (Datum.word <$> ·) hm, congrArg (Datum.word <$> ·) hd⟩

theorem eval_fractionThen (h : HasCut top p scale tail) (hf : ∀ a ∈ p.fraction, a.isDigit)
    (hs : scale ≤ 10 ^ 18) :
    (fractionThen .done).eval c (top ++ sumLocals s total l) =
      (checked (total + (fraction p.fraction).1 * scale / (fraction p.fraction).2)).elim (.returned .none)
        fun total => .value .unit (fractionLocals (fraction p.fraction) top ++ sumLocals tail total l) := by
  obtain ⟨m, hm, hq⟩ := exists_of_fractionOf hf (Machine.fractionOf_eq hs hf)
  -- Behind the loop there are still the numerator and the denominator, but no longer a digit.
  let frame (rest : List Char) (total : Nat) : Locals :=
    fractionLocals (fraction p.fraction) top ++ sumLocals rest total l
  have hb : (Expr.unary .bytes "fraction").eval c (fractionLocals (0, 1) (top ++ sumLocals s total l)) = _ :=
    eval_unary (eval_name (Locals.lookup_above h.fraction)) rfl
  have hc : (Expr.name "scale").eval c (frame s total) = .value (.word scale) _ :=
    eval_name (Locals.lookup_above h.scale)
  have ht : (Expr.name "total").eval c (frame s total) = .value (.word total) _ :=
    eval_name (Locals.lookup_below h.total)
  have he : (Expr.binary .div (.binary .mul "numerator" "scale") "denominator").eval c (frame s total) = _ :=
    eval_binary (eval_binary (eval_name rfl) hc hm) (eval_name rfl) hq
  have ha (total' : Nat) : (frame s total).assign "total" (.word total') = some (frame s total') :=
    Locals.assign_below (l := sumLocals s total l) (show _ = none from h.total)
  rw [fractionThen, eval_letIn Expr.eval_literal, eval_letIn Expr.eval_literal]
  refine (eval_forEach hb (forOctets_addDigit (Machine.readFraction_eq .start hf))).trans ?_
  refine (eval_assign_elim (eval_orReturn (eval_binary ht he rfl)) ha).trans ?_
  congr 1
  funext total
  have hr : (Expr.name "tail").eval c (frame s total) = .value (.text tail) _ :=
    eval_name (Locals.lookup_above h.tail)
  have ha : (frame s total).assign "rest" (.text tail) = some (frame tail total) :=
    Locals.assign_below (l := sumLocals s total l) (show _ = none from h.rest)
  rw [eval_assign hr ha, Block.eval]
  rfl

theorem addTo_eq_bind (h : unit? p.unit = some scale) : p.addTo total =
    (withWhole p scale total).bind fun total =>
      checked (total + (fraction p.fraction).1 * scale / (fraction p.fraction).2) := by
  by_cases hw : p.whole.isEmpty <;> simp [withWhole, Component.addTo, h, hw, Option.bind_assoc]

theorem elim_bind {α β γ : Type} {o : Option α} {f : α → Option β} {z : γ} {g : β → γ} :
    (o.bind f).elim z g = o.elim z fun a => (f a).elim z g := by
  cases o <;> rfl

theorem eval_sumThen (h : HasCut top p scale tail) (hd : ∀ a ∈ p.whole, a.isDigit)
    (hf : ∀ a ∈ p.fraction, a.isDigit) (hu : unit? p.unit = some scale) :
    (sumThen .done).eval c (top ++ sumLocals s total l) =
      (p.addTo total).elim (.returned .none) fun total =>
        .value .unit (fractionLocals (fraction p.fraction) top ++ sumLocals tail total l) := by
  have hs : scale ≤ 10 ^ 18 := scale_le (unit?_eq_some.mp hu)
  simp only [sumThen, eval_whole h hd, eval_fractionThen h hf hs, addTo_eq_bind hu, elim_bind]

theorem split?_eq (hs : Machine.decimals (s.dropWhile Char.isDigit) = .value (decimals, tail)) :
    Component.split? s =
      if (s.takeWhile Char.isDigit).isEmpty && decimals.isEmpty then none
      else some (⟨s.takeWhile Char.isDigit, decimals, tail.takeWhile (!Component.isUnitEnd ·)⟩,
        tail.dropWhile (!Component.isUnitEnd ·)) := by
  let component (q : List Char × List Char) : Option (Component × List Char) :=
    if (s.takeWhile Char.isDigit).isEmpty && q.1.isEmpty then none
    else some (⟨s.takeWhile Char.isDigit, q.1, q.2.takeWhile (!Component.isUnitEnd ·)⟩,
      q.2.dropWhile (!Component.isUnitEnd ·))
  exact congrArg component (Outcome.value.inj ((Machine.decimals_eq _).symm.trans hs))

-- What is left of the text and the sum are all that a round keeps of its variables.
theorem eval_addComponent (hc : c.CountsDigits) :
    (addComponent.eval c (sumLocals s total l)).leaveBlock (sumLocals s total l) =
      (do let (p, rest) ← Component.split? s; return (rest, ← p.addTo total)).elim (.returned .none)
        fun (rest, total) => .value .unit (sumLocals rest total l) := by
  obtain ⟨decimals, tail, hs⟩ :
      ∃ decimals tail, Machine.decimals (s.dropWhile Char.isDigit) = .value (decimals, tail) :=
    ⟨_, _, Machine.decimals_eq _⟩
  let p : Component := ⟨s.takeWhile Char.isDigit, decimals, tail.takeWhile (!Component.isUnitEnd ·)⟩
  let rest := tail.dropWhile (!Component.isUnitEnd ·)
  have hp : Component.split? s = if p.whole.isEmpty && p.fraction.isEmpty then none else some (p, rest) :=
    split?_eq hs
  rw [addComponent, eval_numberThen hc rfl hs, hp]
  split
  case isTrue => rfl
  case isFalse hn =>
    rw [if_neg hn] at hp
    rw [eval_unitThen rfl]
    cases hu : unit? p.unit
    case none => simp [p, rest, Component.addTo, hu, Ending.leaveBlock]
    case some scale =>
      -- A later `tail` hides an earlier one, so what is still unread is the rest behind the unit.
      let top : Locals := [("scale", .word scale), ("tail", .text rest), ("unit", .text p.unit),
        ("unit_len", .word (position Component.isUnitEnd tail)), ("tail", .text tail),
        ("fraction", .text decimals), ("tail", .text (s.dropWhile Char.isDigit)), ("whole", .text p.whole)]
      have ht : HasCut top p scale rest := ⟨rfl, rfl, rfl, rfl, rfl, rfl⟩
      have hr : (sumThen .done).eval c (top ++ sumLocals s total l) = _ :=
        eval_sumThen ht (fun _ => List.mem_takeWhile_imp) (Machine.isDigit_of_split? hp) hu
      refine (congrArg (Ending.leaveBlock _) hr).trans ?_
      cases ha : p.addTo total
      case none => simp [ha, Ending.leaveBlock]
      case some => simp [ha, Ending.leaveBlock, top, sumLocals]

theorem eval_isUnread : isUnread.eval c (sumLocals s total l) = .value (.bool !s.isEmpty) (sumLocals s total l) :=
  eval_unary (eval_unary (eval_name rfl) rfl) rfl

-- One round after the other is the sum. Every component takes at least one character, so there are no more
-- rounds than characters.
theorem loop_addComponent {rounds : Nat} (hc : c.CountsDigits) (h : s.length ≤ rounds) :
    Exec.loop rounds (do Exec.ofBool (← isUnread.eval c)) (discard (Exec.block (addComponent.eval c)))
        (sumLocals s total l) =
      (sum rounds s total).elim (.returned .none) fun total => .value () (sumLocals [] total l) := by
  induction rounds generalizing s total
  case zero =>
    obtain rfl := List.length_eq_zero_iff.mp (Nat.le_zero.mp h)
    simp [Exec.loop, eval_isUnread, sum_nil]
  case succ rounds hi =>
    by_cases hs : s = []
    case pos => simp [hs, Exec.loop, eval_isUnread, sum_nil]
    case neg =>
      rw [sum_eq_bind hs]
      have he : s.isEmpty = false := List.isEmpty_eq_false_iff.mpr hs
      simp only [Exec.loop, Exec.bind_apply, eval_isUnread, Ending.value_bind, Exec.ofBool_bool, Exec.pure_apply,
        Exec.discard_apply, Exec.block_apply, eval_addComponent hc, he, Bool.not_false, if_true]
      cases hp : Component.split? s
      case none => simp
      case some q =>
        obtain ⟨p, rest⟩ := q
        obtain ⟨front, hf, rfl⟩ :=
          Machine.exists_of_component ((Machine.component_eq s).trans (congrArg Outcome.ofOption hp))
        have hl := List.length_pos_iff.mpr hf
        rw [List.length_append] at h
        cases ha : p.addTo total
        case none => simp [ha]
        case some => simp [ha, hi (s := rest) (by omega)]

end

theorem sum_eq_of_le {fuel total : Nat} (h : s.length ≤ fuel) : sum fuel s total = sum s.length s total := by
  have hl : Outcome.ofOption (sum fuel s total) = .ofOption (sum s.length s total) :=
    (Machine.loop_eq h).symm.trans (Machine.loop_eq (Nat.le_refl s.length))
  cases hs : sum s.length s total
  case none => cases hf : sum fuel s total <;> simp_all
  case some => rw [hs] at hl; exact Outcome.ofOption_eq_value.mp hl

theorem eval_withoutSign {l : Locals} (hl : l.lookup "raw" = some (.text s)) :
    (Expr.binary .unwrapOr (.unary (.stripPrefix (.any ['+', '-'])) "raw") "raw").eval c l =
      .value (.text (withoutSign s)) l := by
  have hr : (Expr.name "raw").eval c l = .value (.text s) l := eval_name hl
  cases s
  case nil => exact eval_binary (eval_unary hr rfl) hr rfl
  case cons a s =>
    by_cases ha : a = '+' ∨ a = '-'
    case pos =>
      have hp : (Unary.stripPrefix (.any ['+', '-'])).apply (.text (a :: s)) = .value (.some (.text s)) :=
        congrArg Outcome.value (if_pos (by simp [CharPattern.accepts, ha]))
      have hw : withoutSign (a :: s) = s := by obtain rfl | rfl := ha <;> rfl
      rw [hw]
      exact eval_binary (eval_unary hr hp) hr rfl
    case neg =>
      have hp : (Unary.stripPrefix (.any ['+', '-'])).apply (.text (a :: s)) = .value .none :=
        congrArg Outcome.value (if_neg (by simp [CharPattern.accepts, ha]))
      have hw : withoutSign (a :: s) = a :: s := by simp_all [withoutSign]
      rw [hw]
      exact eval_binary (eval_unary hr hp) hr rfl

theorem length_withoutSign (s : List Char) : (withoutSign s).length ≤ s.length := by
  unfold withoutSign
  split <;> simp

theorem countsDigits_withFunction :
    (c.withFunction "digits" fun d => (lengthUpTo (.not .isDigit) "s").eval c [("s", d)]).CountsDigits := by
  let f (d : Datum) : Ending Datum := (lengthUpTo (.not .isDigit) "s").eval c [("s", d)]
  exact ⟨f, by simp [Context.withFunction, f], fun s => ⟨[("s", .text s)], eval_lengthUpTo (eval_name rfl)⟩⟩

theorem convert_apply {total : Nat} : (Unary.convert .u64 "u128").apply (.word total) =
    .value (.ofResult ((if total < resultLimit then some total else none).map fun n : Nat => Datum.int n)) := by
  have hh : Primitive.u64.holds total = decide (total < resultLimit) := by
    rw [Primitive.holds_eq (p := .u64) rfl]
    exact contains_unsigned
  change Outcome.value (if Primitive.u64.holds total then Datum.fine (.int total) else .failed) = _
  by_cases hl : total < resultLimit <;> simp [hh, hl, Datum.ofResult]

-- What becomes of the sum of all components.
def ofTotal? (isNegative : Bool) (total : Nat) : Option Nat :=
  if isNegative && decide (total ≠ 0) then none
  else if total < resultLimit then some total
  else none

theorem ofText?_eq (s : List Char) : ofText? s =
    if withoutSign s = ['0'] then some 0
    else if (withoutSign s).isEmpty then none
    else (sum (withoutSign s).length (withoutSign s) 0).bind (ofTotal? (decide (s.head? = some '-'))) := by
  rw [ofText?]
  rfl

section

variable {isNegative : Bool}

theorem leaveCall_durationOfTotal {total : Nat} (hn : l.lookup "negative" = some (.bool isNegative))
    (ht : l.lookup "total" = some (.word total)) :
    (durationOfTotal.eval c l).leaveCall [] =
      .value (.ofOption ((ofTotal? isNegative total).map .duration)) [] := by
  have hd : (Expr.binary .differs "total" (.literal (.number 0))).eval c l = _ :=
    eval_binary (eval_name ht) Expr.eval_literal rfl
  rw [durationOfTotal, eval_guard (eval_both (eval_name hn) hd) Expr.eval_literal, ofTotal?]
  cases isNegative && decide (total ≠ 0)
  case true => rfl
  case false =>
    have hv : (Block.value (.unary .some (.unary .ofNanos "nanos"))).eval c (("nanos", .int total) :: l) =
        .value (.some (.duration total)) (("nanos", .int total) :: l) := by
      rw [Block.eval_value]
      exact eval_unary (eval_unary (eval_name rfl) rfl) rfl
    simp only [Bool.false_eq_true, if_false]
    rw [eval_letIn_elim (eval_orReturn (eval_unary (eval_unary (eval_name ht) convert_apply) ok_apply))]
    by_cases hl : total < resultLimit
    case pos => simp [hl, hv, Ending.leaveCall, Datum.ofOption]
    case neg => simp [hl, Ending.leaveCall, Datum.ofOption]

theorem leaveCall_durationOfRest (hn : l.lookup "negative" = some (.bool isNegative)) (h : s.length ≤ c.rounds) :
    (durationOfRest.eval c (("rest", .text s) :: l)).leaveCall [] =
      .value (.ofOption (((sum s.length s 0).bind (ofTotal? isNegative)).map .duration)) [] := by
  rw [durationOfRest, eval_letFunction, eval_letIn Expr.eval_literal, eval_whileTrue]
  let ending (e : Ending Unit) : Ending Datum :=
    Ending.leaveCall [] <| e.leaveLoop.bind fun _ => durationOfTotal.eval
      (c.withFunction "digits" fun d => (lengthUpTo (.not .isDigit) "s").eval c [("s", d)])
  refine (congrArg ending (loop_addComponent countsDigits_withFunction h)).trans ?_
  rw [sum_eq_of_le h]
  cases sum s.length s 0
  case none => rfl
  case some total => exact leaveCall_durationOfTotal hn rfl

end

-- The helper finds the duration of a text for which it has a round for each character.
theorem durationFunction_call (h : s.length ≤ c.rounds) :
    durationFunction.call c (.text s) = .value (.ofOption ((ofText? s).map .duration)) [] := by
  have hr : (Expr.name "raw").eval c [("raw", .text s)] = .value (.text s) [("raw", .text s)] := eval_name rfl
  have hl : (withoutSign s).length ≤ c.rounds := (length_withoutSign s).trans h
  rw [Function.call, durationFunction, eval_letIn (eval_unary hr rfl), eval_letIn (eval_withoutSign rfl), any_one,
    ofText?_eq]
  generalize withoutSign s = rest at hl ⊢
  rw [eval_guard (eval_binary (eval_name rfl) Expr.eval_literal rfl) eval_some]
  by_cases hz : rest = ['0']
  case pos =>
    subst hz
    rfl
  case neg =>
    have hd : ¬decide (rest = "0".toList) = true := by simpa using hz
    rw [if_neg hd, if_neg hz, eval_guard (eval_unary (eval_name rfl) rfl) Expr.eval_literal]
    split
    case isTrue => rfl
    case isFalse => exact leaveCall_durationOfRest rfl hl

end EnvConfig.Program
