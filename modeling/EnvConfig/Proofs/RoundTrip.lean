import EnvConfig.Proofs.Durations
import EnvConfig.Proofs.Loading
import EnvConfig.Proofs.Utf8

-- What has been written for the value of a leaf is read as that value, and so a record whose leaves have all
-- been written is loaded as it was.

namespace EnvConfig

open Source

namespace Decimal

theorem ofDigits_toDigits (n : Nat) : ofDigits (Nat.toDigits 10 n) = n :=
  Nat.ofDigitChars_ten_toDigits

theorem isDigit_of_mem_toDigits {n : Nat} {c : Char} (h : c ∈ Nat.toDigits 10 n) : c.isDigit :=
  Nat.isDigit_of_mem_toDigits (by decide) (by decide) h

theorem natural?_toDigits (n : Nat) : natural? (Nat.toDigits 10 n) = some n := by
  have hd : (Nat.toDigits 10 n).all Char.isDigit := List.all_eq_true.mpr fun _ => isDigit_of_mem_toDigits
  simp [natural?, Nat.toDigits_ne_nil, hd, ofDigits_toDigits]

-- A number starts with a digit, not with a sign.
theorem exists_toDigits_eq_cons (n : Nat) : ∃ c cs, Nat.toDigits 10 n = c :: cs ∧ c.isDigit := by
  obtain ⟨c, cs, h⟩ := List.exists_cons_of_ne_nil (Nat.toDigits_ne_nil (b := 10) (n := n))
  exact ⟨c, cs, h, isDigit_of_mem_toDigits (h ▸ List.mem_cons_self)⟩

theorem integer?_repr (n : Int) : integer? n.repr.toList = some n := by
  cases n
  case ofNat n =>
    obtain ⟨c, cs, h, hc⟩ := exists_toDigits_eq_cons n
    have hn := natural?_toDigits n
    simp only [Int.repr, Nat.toList_repr, h] at hn ⊢
    unfold integer?
    split
    case h_1 he => exact absurd ((List.cons.inj he).left ▸ hc) (by decide)
    case h_2 he => exact absurd ((List.cons.inj he).left ▸ hc) (by decide)
    case h_3 => rw [hn]; rfl
  case negSucc n =>
    simp [Int.repr, integer?, natural?_toDigits, Int.negSucc_eq]

end Decimal

-- A whole number of nanoseconds is a duration of one term.
theorem Duration.ofText?_nanos {n : Nat} (h : n < resultLimit) :
    ofText? (Nat.toDigits 10 n ++ ['n', 's']) = some n := by
  let t : Term := {
    whole            := Nat.toDigits 10 n
    decimals?        := none
    unit             := "ns"
    scale            := 1
    whole_isDigit    := fun _ => Decimal.isDigit_of_mem_toDigits
    decimals_isDigit := by simp
    digits_ne_nil    := by simp [Nat.toDigits_ne_nil]
    unit_mem         := .head _ }
  have hs : Spells (Nat.toDigits 10 n ++ ['n', 's']) n := by
    have hs : Spells ([t].flatMap Term.text) ([t].map Term.nanos).sum := .terms (List.cons_ne_nil t [])
    simpa [t, Term.text, Term.nanos, Term.counted, Term.decimals] using hs
  have hw : Spells (withoutSign (Nat.toDigits 10 n ++ ['n', 's'])) n := (withoutSign_of_spells hs).left.symm ▸ hs
  exact ofText?_eq_some.mpr ⟨h, hw, fun hm => absurd hm hs.bounds.right.right⟩

namespace Value

-- A value that a leaf of a primitive type can have.
def Fits (p : Primitive) : Value → Prop
  | string _   => p = .string
  | bool _     => p = .bool
  | int n      => p.holds n
  | single _   => p = .f32
  | double _   => p = .f64
  | duration n => p = .duration ∧ n < Duration.resultLimit

-- How a value is written. For numbers that are not whole there is more than one way.
def text? : Value → Option String
  | string text => some text
  | bool b      => some (toString b)
  | int n       => some (toString n)
  | duration n  => some (toString n ++ "ns")
  | single _    => none
  | double _    => none

-- An integer that fits where it is kept also fits where it is read.
theorem holds_wide {p : Primitive} {n : Int} (h : p.holds n) : p.parsing.parse.wide.holds n := by
  cases p <;>
    simp [Primitive.holds, Primitive.range?, Primitive.parsing, Parse.wide, IntRange.contains,
      IntRange.signed, IntRange.unsigned] at h ⊢
  all_goals omega

theorem parse_of_holds {p : Primitive} {n : Int} (h : p.holds n) :
    p.parsing.parse = .word ∨ p.parsing.parse = .signed ∨ p.parsing.parse = .unsigned := by
  cases p <;> first | cases h | simp [Primitive.parsing]

theorem narrow_eq {p q : Primitive} (h : p.parsing.narrow = some q) : q = p := by
  cases p <;> cases h <;> rfl

theorem integer?_toString {p : Primitive} {n : Int} (h : p.holds n) :
    integer? p.parsing.parse.wide p.parsing.narrow (toString n).toList = some n := by
  have hi : (Decimal.integer? (toString n).toList).filter p.parsing.parse.wide.holds = some n := by
    rw [Int.toString_eq_repr, Decimal.integer?_repr]
    simp [holds_wide h]
  unfold integer?
  rw [hi]
  cases hn : p.parsing.narrow
  case none => rfl
  case some q => simp [narrow_eq hn, h]

-- A number that cannot be negative is written without a sign.
theorem head?_toString {n : Int} (h : 0 ≤ n) :
    (toString n).toList.head? ≠ some '+' ∧ (toString n).toList.head? ≠ some '-' := by
  obtain ⟨k, rfl⟩ := Int.eq_ofNat_of_zero_le h
  obtain ⟨c, cs, hd, hc⟩ := Decimal.exists_toDigits_eq_cons k
  have ht : (toString (k : Int)).toList = c :: cs := by
    rw [← hd, ← Nat.toList_repr]
    rfl
  rw [ht]
  constructor <;> rintro ⟨⟩ <;> cases hc

theorem nonneg_of_holds {p : Primitive} {n : Int} (hp : p.parsing.parse = .unsigned) (h : p.holds n) :
    0 ≤ n := by
  cases p <;> cases hp <;>
    simp [Primitive.holds, Primitive.range?, IntRange.contains, IntRange.unsigned] at h <;>
    exact h.left

theorem read_text {p : Primitive} {x : Value} {text : String} (hf : x.Fits p) (ht : x.text? = some text) :
    p.parsing.read text.toList = some x := by
  cases x <;> cases ht
  case string =>
    cases hf
    simp [Primitive.parsing, Parsing.read]
  case bool b =>
    cases hf
    cases b <;> rfl
  case duration n =>
    obtain ⟨rfl, hn⟩ := hf
    simp [Primitive.parsing, Parsing.read, Duration.ofText?_nanos hn]
  case int n =>
    have hi := integer?_toString hf
    obtain hp | hp | hp := parse_of_holds hf
    case inl => simp only [Parsing.read, hp] at hi ⊢; rw [hi]; rfl
    case inr.inl => simp only [Parsing.read, hp] at hi ⊢; rw [hi]; rfl
    case inr.inr =>
      obtain ⟨h₁, h₂⟩ := head?_toString (nonneg_of_holds hp hf)
      simp only [Parsing.read, hp, h₁, h₂] at hi ⊢
      rw [hi]
      rfl

theorem exists_text {p : Primitive} {x : Value} (hf : x.Fits p) (h32 : p ≠ .f32) (h64 : p ≠ .f64) :
    ∃ text, x.text? = some text := by
  cases x
  case single => exact absurd hf h32
  case double => exact absurd hf h64
  all_goals exact ⟨_, rfl⟩

-- The octets of a value's text.
def octets? (x : Value) : Option (List UInt8) :=
  x.text?.map (·.toUTF8.data.toList)

end Value

theorem Leaf.value?_of_octets? {l : Leaf} {x : Value} {env : Environment} (hf : x.Fits l.primitive)
    (h32 : l.primitive ≠ .f32) (h64 : l.primitive ≠ .f64) (he : env l.key = x.octets?) :
    l.value? env = some x := by
  obtain ⟨text, ht⟩ := Value.exists_text hf h32 h64
  have hr : l.parsing.read text.toList = some x := Value.read_text hf ht
  simp only [value?, he, Value.octets?, ht, Option.map_some, Option.bind_eq_bind, Option.bind_some,
    Text.Utf8.decodeLossy_encode, hr]

namespace Environment

def set (env : Environment) (key : String) (octets? : Option (List UInt8)) : Environment :=
  fun k => if k = key then octets? else env k

-- Writes one leaf after the other.
def write (env : Environment) (values : List (Leaf × Value)) : Environment :=
  values.foldl (fun env (l, x) => env.set l.key x.octets?) env

-- The variable of each leaf says what the leaf holds in a record.
def Encodes (env : Environment) (f : Flattened) (v : Record Value) : Prop :=
  ∀ l ∈ f.leaves, ∀ x, (l.path, x) ∈ v.entries → env l.key = x.octets?

theorem write_of_notMem {env : Environment} {values : List (Leaf × Value)} {key : String}
    (h : key ∉ values.map (·.1.key)) : env.write values key = env key := by
  induction values generalizing env
  case nil => rfl
  case cons value values hi =>
    simp only [List.map_cons, List.mem_cons, not_or] at h
    exact (hi h.right).trans (if_neg h.left)

-- No leaf writes over what another one has written.
theorem write_of_mem {env : Environment} {values : List (Leaf × Value)} {l : Leaf} {x : Value}
    (hn : (values.map (·.1.key)).Nodup) (h : (l, x) ∈ values) : env.write values l.key = x.octets? := by
  induction values generalizing env
  case nil => cases h
  case cons value values hi =>
    have ⟨hv, hn⟩ := List.nodup_cons.mp hn
    cases h
    case head => exact (write_of_notMem hv).trans (if_pos rfl)
    case tail h => exact hi hn h

end Environment

-- The values of a flattened record: they have its shape, and what they hold at the path of a leaf is of the
-- leaf's type.
structure Flattened.HasValue (f : Flattened) (v : Record Value) : Prop where
  shape : v.shape = f.layout.shape
  fits  : ∀ l ∈ f.leaves, ∀ x, (l.path, x) ∈ v.entries → x.Fits l.primitive

section Record

variable {r : Record Leaf} {v : Record Value}

-- The values stand in the order of the leaves.
theorem Record.entries_eq_zip (he : r.entries = r.contents.map fun l => (l.path, l))
    (h : v.shape = r.shape) :
    v.entries = (r.contents.zip v.contents).map fun (l, x) => (l.path, x) := by
  have hf : v.entries.map (·.1) = r.contents.map (·.path) := by
    rw [Record.map_fst_entries_eq h, he]
    simp [Function.comp_def]
  rw [List.zip_of_prod hf (Record.map_snd_entries v), List.zip_map_left]
  rfl

end Record

section Flattened

variable {c : Catalog} {root project title : String} {f : Flattened} {o : ModuleOptions} {m : Module}

-- A record whose leaves are written to their variables is loaded as it was, whatever the other variables
-- are, and there is such an environment for every record.
theorem Module.load_encoded (hf : c.flatten root project = .ok f)
    (hu : Uniqueness.check f.leaves = .ok ()) (hm : build title f o = .ok m)
    (hn : ∀ l ∈ f.leaves, l.primitive ≠ .f32 ∧ l.primitive ≠ .f64)
    {v : Record Value} (hv : f.HasValue v) :
    (∀ env : Environment, env.Encodes f v → m.load env = some (.ok v)) ∧
      ∀ env : Environment, (env.write (f.leaves.zip v.contents)).Encodes f v := by
  obtain ⟨r, rfl, he, s⟩ := serves_of_build hf hu hm
  have hs : v.shape = r.shape := hv.shape.trans (Record.shape_numbered r)
  have hl := (Record.length_contents_eq hs).symm
  have hz := Record.entries_eq_zip he hs
  have hmem {l : Leaf} {x : Value} (h : (l, x) ∈ r.contents.zip v.contents) : (l.path, x) ∈ v.entries :=
    hz ▸ List.mem_map_of_mem (f := fun (l, x) => (l.path, x)) h
  constructor
  case left =>
    intro env henv
    refine s.load_eq_ok.mpr <| Record.ext (by simpa using hs) ?_
    calc
      _ = ((r.contents.zip v.contents).map Prod.snd).map some := by
        rw [List.map_snd_zip hl.ge, Record.contents_map]
      _ = ((r.contents.zip v.contents).map Prod.fst).map (·.value? env) := by
        rw [List.map_map, List.map_map]
        refine List.map_congr_left fun (l, x) h => ?_
        have hc : l ∈ r.contents := (List.of_mem_zip h).left
        exact .symm <| Leaf.value?_of_octets? (hv.fits l hc x (hmem h)) (hn l hc).left (hn l hc).right
          (henv l hc x (hmem h))
      _ = _ := by rw [List.map_fst_zip hl.le, Record.contents_map]
  case right =>
    intro env l hc x hx
    obtain ⟨⟨l', x'⟩, hx', he⟩ := List.mem_map.mp (hz ▸ hx)
    obtain ⟨hp, rfl⟩ := Prod.mk.inj he
    -- A path belongs to one leaf, as the name of the local variable follows from it.
    have hb : l'.binding = l.binding := congrArg FieldPath.binding hp
    obtain rfl : l' = l := List.inj_on_of_nodup_map s.bindings_nodup (List.of_mem_zip hx').left hc hb
    have hk : (((r.contents.zip v.contents).map Prod.fst).map (·.key)).Nodup := by
      rw [List.map_fst_zip hl.le]
      exact (Uniqueness.check_eq_ok.mp hu).left
    exact Environment.write_of_mem (List.map_map (f := Prod.fst) ▸ hk) hx'

end Flattened

def Catalog.clusterValue : Record Value where
  type   := cluster.ident
  fields :=
    .leaf level (.int (-5)) <|
    .record main server.ident (.leaf host (.string "löwe") .nil) <|
    .record spare server.ident (.leaf host (.string "") .nil)
    .nil

theorem Module.load_encoded_cluster :
    ∃ f m, Catalog.clusters.flatten "Cluster" "APP" = .ok f ∧ Uniqueness.check f.leaves = .ok () ∧
      build "APP" f ⟨none, none⟩ = .ok m ∧ f.HasValue Catalog.clusterValue ∧
      ∃ env, m.load env = some (.ok Catalog.clusterValue) := by
  obtain ⟨f, m, hf, hu, hm⟩ := Catalog.cluster_builds
  have hs : (Catalog.clusters.flatten "Cluster" "APP").toOption.map (·.layout.shape) =
      some Catalog.clusterValue.shape := by decide +kernel
  simp only [hf, Except.toOption, Option.map_some, Option.some.injEq] at hs
  have hp {l : Leaf} (h : l ∈ f.leaves) :=
    Catalog.leaves_of_cluster hf ▸ List.mem_map_of_mem (f := fun l : Leaf => (l.path, l.key, l.primitive)) h
  have hn : ∀ l ∈ f.leaves, l.primitive ≠ .f32 ∧ l.primitive ≠ .f64 := by
    intro l h
    have hp := hp h
    grind
  have hv : f.HasValue Catalog.clusterValue := by
    refine ⟨hs.symm, fun l h x hx => ?_⟩
    have hp := hp h
    have he : Catalog.clusterValue.entries = [
        (⟨["level"]⟩, .int (-5)), (⟨["main", "host"]⟩, .string "löwe"), (⟨["spare", "host"]⟩, .string "")] := by
      decide
    simp only [he, List.mem_cons, Prod.mk.injEq, List.not_mem_nil, or_false] at hp hx
    obtain ⟨hx, rfl⟩ | ⟨hx, rfl⟩ | ⟨hx, rfl⟩ := hx <;> simp [hx] at hp <;> simp [Value.Fits, hp]
    decide
  obtain ⟨h, hw⟩ := load_encoded hf hu hm hn hv
  exact ⟨f, m, hf, hu, hm, hv, _, h _ (hw fun _ => none)⟩

end EnvConfig
