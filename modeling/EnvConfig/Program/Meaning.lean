import EnvConfig.Module.Loading
import EnvConfig.Program.Syntax
import EnvConfig.Value.Machine

-- What programs do: expressions have values, and statements change local variables. Nothing is known of a
-- program that makes use of a value as what it is not.

namespace EnvConfig.Program

open Duration (Fault checked)

-- What a local variable can hold. A result is a value or a failure, of which nothing more is needed.
inductive Datum where
  | unit
  | bool      (b : Bool)
  | text      (s : List Char)
  | octets    (bs : List UInt8)
  | byte      (b : UInt8)
  | word      (n : Nat)
  | int       (n : Int)
  | double    (x : Floating)
  | single    (x : Floating)
  | duration  (nanos : Nat)
  | pair      (a b : Datum)
  | none
  | some      (d : Datum)
  | fine      (d : Datum)
  | failed
  | sentinels (ss : List Sentinel)
  | loaded    (r : Except LoadError (Record Value))

namespace Datum

def ofOption : Option Datum → Datum
  | .none   => none
  | .some d => some d

def ofResult : Option Datum → Datum
  | .none   => failed
  | .some d => fine d

def ofValue : Value → Datum
  | .string s   => text s.toList
  | .bool b     => bool b
  | .int n      => int n
  | .double x   => double x
  | .single x   => single x
  | .duration n => duration n

-- The value that a local variable holds for a field of a record.
def value? : Datum → Option Value
  | text s     => .some (.string (String.ofList s))
  | bool b     => .some (.bool b)
  | int n      => .some (.int n)
  | double x   => .some (.double x)
  | single x   => .some (.single x)
  | duration n => .some (.duration n)
  | _          => .none

end Datum

-- The local variables, the latest first. A variable hides an earlier one of the same name.
abbrev Locals := List (String × Datum)

namespace Locals

def assign (x : String) (d : Datum) : Locals → Option Locals
  | []          => none
  | (y, e) :: l => if y = x then some ((y, d) :: l) else (assign x d l).map ((y, e) :: ·)

end Locals

-- How a computation ends. One that is broken off leaves a loop.
inductive Ending (α : Type) where
  | value    (a : α) (locals : Locals)
  | broken   (locals : Locals)
  | returned (d : Datum)
  | fault    (f : Fault)
  | stuck

-- A computation, which starts with some local variables.
def Exec (α : Type) : Type :=
  Locals → Ending α

namespace Ending

variable {α β : Type}

def bind (e : Ending α) (f : α → Exec β) : Ending β :=
  match e with
  | value a l  => f a l
  | broken l   => broken l
  | returned d => returned d
  | fault f    => fault f
  | stuck      => stuck

def ofOption (l : Locals) : Option α → Ending α
  | none   => stuck
  | some a => value a l

-- What is refused is a value of a wrong kind.
def ofOutcome (l : Locals) : Duration.Outcome α → Ending α
  | .value a => value a l
  | .refused => stuck
  | .fault f => fault f

-- The end of a block, at which its variables are given up.
def leaveBlock (l : Locals) : Ending α → Ending α
  | value a l' => value a (l'.drop (l'.length - l.length))
  | broken l'  => broken (l'.drop (l'.length - l.length))
  | e          => e

-- The end of a function that has been called with the given variables around.
def leaveCall (l : Locals) : Ending Datum → Ending Datum
  | value d _  => value d l
  | returned d => value d l
  | broken _   => stuck
  | fault f    => fault f
  | stuck      => stuck

-- The end of a loop's round that has been broken off.
def leaveLoop : Ending Unit → Ending Unit
  | broken l => value () l
  | e        => e

end Ending

namespace Exec

variable {α : Type}

instance : Monad Exec where
  pure a   := .value a
  bind x f := fun l => (x l).bind f

@[simp]
theorem pure_apply {a : α} {l : Locals} : (pure a : Exec α) l = .value a l :=
  rfl

@[simp]
theorem bind_apply {β : Type} {l : Locals} (x : Exec α) (f : α → Exec β) : (x >>= f) l = (x l).bind f :=
  rfl

def locals : Exec Locals := fun l =>
  .value l l

def declare (x : String) (d : Datum) : Exec Unit := fun l =>
  .value () ((x, d) :: l)

def assign (x : String) (d : Datum) : Exec Unit := fun l =>
  match l.assign x d with
  | none    => .stuck
  | some l' => .value () l'

def stop : Exec α := fun l =>
  .broken l

def leave (d : Datum) : Exec α := fun _ =>
  .returned d

def stuck : Exec α := fun _ =>
  .stuck

def ofOption (a : Option α) : Exec α := fun l =>
  .ofOption l a

def ofOutcome (x : Duration.Outcome α) : Exec α := fun l =>
  .ofOutcome l x

def ofBool : Datum → Exec Bool
  | .bool b => pure b
  | _       => stuck

def block (x : Exec α) : Exec α := fun l =>
  (x l).leaveBlock l

-- The body of a function that is given in place.
def inPlace (x : Exec Datum) : Exec Datum := fun l =>
  (x l).leaveCall l

def call (f : Datum → Ending Datum) (d : Datum) : Exec Datum := fun l =>
  (f d).leaveCall l

-- Nothing is known of a loop that takes more rounds than are given.
def loop (rounds : Nat) (condition : Exec Bool) (body : Exec Unit) : Exec Unit := do
  if ← condition then
    match rounds with
    | 0          => stuck
    | rounds + 1 => do
      body
      loop rounds condition body
  else return ()

def untilStop (x : Exec Unit) : Exec Unit := fun l =>
  (x l).leaveLoop

-- The body of a loop, with a variable of its own in each round.
def inRound (x : String) (d : Datum) (body : Exec Datum) : Exec Unit :=
  discard <| block do
    declare x d
    body

def forOctets (body : UInt8 → Exec Unit) : List UInt8 → Exec Unit
  | []      => pure ()
  | b :: bs => do
    body b
    forOctets body bs

end Exec

-- What a program is run with: the variables that are set, the names that the module declares, the functions
-- that can be called, and how many rounds a loop can take.
structure Context where
  environment : Environment
  types     : ReportTypes
  key?      : String → Option String
  sentinel? : String → Option Sentinel
  function? : String → Option (Datum → Ending Datum)
  rounds    : Nat

def Context.withFunction (c : Context) (name : String) (f : Datum → Ending Datum) : Context :=
  { c with function? := fun g => if g = name then some f else c.function? g }

namespace CharPattern

def accepts : CharPattern → Char → Bool
  | one c,  d => d = c
  | any cs, d => cs.contains d

end CharPattern

namespace CharTest

def holds : CharTest → Char → Bool
  | is c,       d => d = c
  | isDigit,    d => d.isDigit
  | not t,      d => !t.holds d
  | either a b, d => a.holds d || b.holds d

end CharTest

def Literal.datum : Literal → Datum
  | string t     => .text t.toList
  | number n     => .word n
  | byte c       => .byte (.ofNat c.toNat)
  | bool b       => .bool b
  | none         => .none
  | zeroDuration => .duration 0
  | emptyList    => .sentinels []

-- A number of a primitive's own notation.
def parsed? (type : Primitive) (s : List Char) : Option Datum :=
  match type with
  | .f64 => (Floating.ofText? .double s).map .double
  | p    => p.range?.bind fun r => (r.read s).map .int

open Duration.Outcome in
def Unary.apply : Unary → Datum → Duration.Outcome Datum
  | not,           .bool b   => value (.bool !b)
  | borrow,        d         => value d
  | some,          d         => value (.some d)
  | ok,            .fine d   => value (.some d)
  | ok,            .failed   => value .none
  | isNone,        .none     => value (.bool true)
  | isNone,        .some _   => value (.bool false)
  | isEmpty,       .text s   => value (.bool s.isEmpty)
  | length,        .text s   => value (.word (Duration.Octets.encode s).length)
  | bytes,         .text s   => value (.octets (Duration.Octets.encode s))
  | lossy,         .octets bs => value (.text (Text.Utf8.decodeLossy bs))
  | owned,         .text s   => value (.text s)
  | startsWith p,  .text s   => value (.bool (s.head?.any p.accepts))
  | stripPrefix p, .text s   =>
    match s with
    | []      => value .none
    | c :: s  => value (if p.accepts c then .some (.text s) else .none)
  | trimStart p,   .text s   => value (.text (s.dropWhile p.accepts))
  | find t,        .text s   =>
    value (if s.any t.holds then .some (.word (Duration.Octets.position t.holds s)) else .none)
  | isNamed name,  .text s   => value (.bool (Floating.asciiLower s = Floating.asciiLower name.toList))
  | parse type,    .text s   => value (.ofResult (parsed? type s))
  | parseWord,     .text s   =>
    value (.ofResult (((IntRange.unsigned 128).read s).map fun n => .word n.toNat))
  | isInfinite,    .double x => value (.bool x.isInfinite)
  | isInfinite,    .single x => value (.bool x.isInfinite)
  | cast .f32,     .double x => value (.single (FloatFormat.single.convert x))
  | convert p _,   .int n    => value (if p.holds n then .fine (.int n) else .failed)
  | convert p _,   .word n   => value (if p.holds n then .fine (.int n) else .failed)
  | ofByte,        .byte b   => value (.word b.toNat)
  | ofNanos,       .int n    => value (.duration n.toNat)
  | _,             _         => refused

open Duration.Outcome in
def Binary.apply : Binary → Datum → Datum → Duration.Outcome Datum
  | equals,     .text a, .text b => value (.bool (a = b))
  | differs,    .word a, .word b => value (.bool (a ≠ b))
  | atLeast,    .word a, .word b => value (.bool (a ≥ b))
  | add,        .word a, .word b => .word <$> Duration.Word.add a b
  | mul,        .word a, .word b => .word <$> Duration.Word.mul a b
  | div,        .word a, .word b => .word <$> Duration.Word.div a b
  | sub,        .byte a, .byte b => (fun n => .byte (.ofNat n)) <$> Duration.Word.distance a b
  | unwrapOr,   .some d, _       => value d
  | unwrapOr,   .none,   d       => value d
  | splitAt,    .text s, .word n => (fun (a, b) => .pair (.text a) (.text b)) <$> Duration.Octets.splitAt n s
  | checkedAdd, .word a, .word b => value (.ofOption ((checked (a + b)).map .word))
  | checkedMul, .word a, .word b => value (.ofOption ((checked (a * b)).map .word))
  | pair,       a,       b       => value (.pair a b)
  | _,          _,       _       => refused

namespace Binder

def declare : Binder → Datum → Exec Unit
  | name _ x _, d         => Exec.declare x d
  | pair x y,   .pair a b => do
    Exec.declare x a
    Exec.declare y b
  | pair .., _            => Exec.stuck

end Binder

-- The values in some options. There are none if one of the options is empty.
def present? (l : Locals) : List String → Option (Option (List Datum))
  | []      => some (some [])
  | x :: xs => do
    let ds? ← present? l xs
    match ← l.lookup x with
    | .none   => some none
    | .some d => some (ds?.map (d :: ·))
    | _       => none

-- The record of the local variables' values.
def record? (l : Locals) (r : Record String) : Option (Record Value) :=
  r.traverse? fun x => (l.lookup x).bind Datum.value?

def loadError? (l : Locals) : Option LoadError :=
  match l.lookup "missing", l.lookup "invalid" with
  | some (.sentinels missing), some (.sentinels invalid) => some ⟨missing, invalid⟩
  | _,                         _                         => none

namespace Context

def lookup? (c : Context) (constant : String) : Option Datum :=
  (c.key? constant).map fun key => .ofOption ((c.environment key).map .octets)

-- The list with the sentinel that a variant stands for.
def pushed? (c : Context) (type variant : String) : Datum → Option Datum
  | .sentinels ss =>
    if type = c.types.sentinels then (c.sentinel? variant).map fun s => .sentinels (ss ++ [s]) else none
  | _ => none

end Context

-- What becomes of a value in an option.
def Combinator.result (c : Combinator) (d : Datum) (result : Datum) : Exec Datum :=
  match c, result with
  | filter,  .bool b => return if b then .some d else .none
  | andThen, .none   => return .none
  | andThen, .some e => return .some e
  | map,     e       => return .some e
  | _,       _       => Exec.stuck

mutual

def Expr.eval (c : Context) : Expr → Exec Datum
  | .name x        => do Exec.ofOption ((← Exec.locals).lookup x)
  | .literal l     => return l.datum
  | .unary op e    => do Exec.ofOutcome (op.apply (← e.eval c))
  | .binary op a b => do
    let x ← a.eval c
    Exec.ofOutcome (op.apply x (← b.eval c))
  | .both a b      => do if ← Exec.ofBool (← a.eval c) then b.eval c else return .bool false
  | .either a b    => do if ← Exec.ofBool (← a.eval c) then return .bool true else b.eval c
  | .orReturn e    => do
    match ← e.eval c with
    | .some d => return d
    | .none   => Exec.leave .none
    | _       => Exec.stuck
  | .call f e      => do
    let d ← e.eval c
    Exec.call (← Exec.ofOption (c.function? f)) d
  | .apply m e x b => do
    match ← e.eval c with
    | .none   => return .none
    | .some d => do
      let result ← Exec.inPlace do
        Exec.declare x d
        b.eval c
      m.result d result
    | _       => Exec.stuck
  | .onOption e x present absent => do
    match ← e.eval c with
    | .some d => Exec.block do
      Exec.declare x d
      present.eval c
    | .none   => Exec.block (absent.eval c)
    | _       => Exec.stuck
  | .onText e arms => do
    match ← e.eval c with
    | .text s => arms.eval c s
    | _       => Exec.stuck
  | .variable k    => Exec.ofOption (c.lookup? k)
  | .success r     => do
    return .loaded (.ok (← Exec.ofOption (record? (← Exec.locals) r)))
  | .failure type  => do
    if type = c.types.loadError then
      return .loaded (.error (← Exec.ofOption (loadError? (← Exec.locals))))
    else Exec.stuck
  | .leave e       => do Exec.leave (← e.eval c)

def Arms.eval (c : Context) (s : List Char) : Arms → Exec Datum
  | .otherwise e      => e.eval c
  | .arm texts e rest => if texts.contains (String.ofList s) then e.eval c else rest.eval c s

-- The value of a block. One that ends in a statement has none but the unit.
def Block.eval (c : Context) : Block → Exec Datum
  | .value e       => e.eval c
  | .done          => return .unit
  | .leave e       => do Exec.leave (← e.eval c)
  | .stop          => Exec.stop
  | .letIn b e rest => do
    b.declare (← e.eval c)
    rest.eval c
  | .letFunction f x body rest =>
    let g (d : Datum) : Ending Datum := body.eval c [(x, d)]
    rest.eval (c.withFunction f g)
  | .assign x e rest => do
    Exec.assign x (← e.eval c)
    rest.eval c
  | .multiply x e rest => do
    let d ← Exec.ofOption ((← Exec.locals).lookup x)
    Exec.assign x (← Exec.ofOutcome (Binary.mul.apply d (← e.eval c)))
    rest.eval c
  | .push list type variant rest => do
    let ss ← Exec.ofOption ((← Exec.locals).lookup list)
    Exec.assign list (← Exec.ofOption (c.pushed? type variant ss))
    rest.eval c
  | .onlyIf e body rest => do
    if ← Exec.ofBool (← e.eval c) then discard (Exec.block (body.eval c))
    rest.eval c
  | .onlyIfAll names body rest => do
    if let some ds ← Exec.ofOption (present? (← Exec.locals) names) then
      discard <| Exec.block do
        (names.zip ds).forM fun (x, d) => Exec.declare x d
        body.eval c
    rest.eval c
  | .whileTrue e body rest => do
    Exec.untilStop (Exec.loop c.rounds (do Exec.ofBool (← e.eval c)) (discard (Exec.block (body.eval c))))
    rest.eval c
  | .forEach x e body rest => do
    match ← e.eval c with
    | .octets bs =>
      Exec.untilStop (Exec.forOctets (fun b => Exec.inRound x (.byte b) (body.eval c)) bs)
      rest.eval c
    | _ => Exec.stuck

end

section

variable {c : Context} {l : Locals}

attribute [local simp] Expr.eval Block.eval

theorem Expr.eval_literal {k : Literal} : (literal k).eval c l = .value k.datum l := by
  simp

theorem Block.eval_value {e : Expr} : (value e).eval c = e.eval c := by
  simp

end

-- What a function does, without an argument or to the one that it has.
def Function.run (f : Function) (c : Context) : Ending Datum :=
  Ending.leaveCall [] (f.body.eval c [])

def Function.call (f : Function) (c : Context) (d : Datum) : Ending Datum :=
  Ending.leaveCall [] (f.body.eval c [("raw", d)])

end EnvConfig.Program
