import EnvConfig.Proofs.FirstCollision
import EnvConfig.Proofs.Keys
import Mathlib.Data.List.SplitBy

-- Where the names of fields are in ASCII and start with a letter, the capitals in an identifier that reports a
-- problem show where the name of each field starts, so that it says as much as the key does. What two leaves of
-- such a record can have in common besides their keys is then the local variable alone.

namespace EnvConfig

open Source Text

namespace Text

-- Numerals have no case.
theorem keep_of_ascii {c : Char} : c.toNat < 128 →
    Naming.keep (fun c => [c.toUpper]) c = (if c.isAlphanum then [c.toUpper] else []) ∧
      Naming.keep (fun c => [c.toLower]) c = if c.isAlphanum then [c.toLower] else [] :=
  of_ascii (p := fun c => Naming.keep (fun c => [c.toUpper]) c = (if c.isAlphanum then [c.toUpper] else []) ∧
    Naming.keep (fun c => [c.toLower]) c = if c.isAlphanum then [c.toLower] else []) (by decide)

theorem keep_toUpper_of_ascii {c : Char} (h : c.toNat < 128) :
    Naming.keep toUpper c = if c.isAlphanum then [c.toUpper] else [] := by
  simpa only [Naming.keep, toUpper_of_ascii h] using (keep_of_ascii h).left

theorem keep_toLower_of_ascii {c : Char} (h : c.toNat < 128) :
    Naming.keep toLower c = if c.isAlphanum then [c.toLower] else [] := by
  simpa only [Naming.keep, toLower_of_ascii h] using (keep_of_ascii h).right

-- The letters of ASCII have one capital and one small form each.
theorem forms_of_ascii {c : Char} : c.toNat < 128 →
    c.toLower.isUpper = false ∧ c.toUpper.toUpper = c.toUpper ∧ c.toLower.toUpper = c.toUpper ∧
      c.toUpper.toLower = c.toLower :=
  of_ascii (p := fun c => c.toLower.isUpper = false ∧ c.toUpper.toUpper = c.toUpper ∧
    c.toLower.toUpper = c.toUpper ∧ c.toUpper.toLower = c.toLower) (by decide)

end Text

namespace Naming

-- A capital, and no other capital behind it.
structure IsWord (w : List Char) : Prop where
  start : w.head?.any (·.isUpper)
  rest  : w.tail.all (!·.isUpper)

-- Words that are put together can be read off what they make up.
theorem IsWord.splitBy_flatten {words : List (List Char)} (h : ∀ w ∈ words, IsWord w) :
    words.flatten.splitBy (fun _ c => !c.isUpper) = words := by
  have ne_nil {w : List Char} (hw : IsWord w) : w ≠ [] := fun he => by simpa [he] using hw.start
  refine List.splitBy_flatten (fun hn => ne_nil (h _ hn) rfl) ?chain ?apart
  case chain =>
    intro w hw
    refine List.isChain_iff_getElem.mpr fun i hi => ?_
    exact List.all_eq_true.mp (h w hw).rest _ (List.mem_iff_getElem.mpr ⟨i, by simp; omega, by simp⟩)
  case apart =>
    refine List.isChain_iff_getElem.mpr fun i hi => ?_
    have hw := h _ (List.getElem_mem hi)
    refine ⟨ne_nil (h _ (List.getElem_mem _)), ne_nil hw, ?_⟩
    simpa [List.head?_eq_some_head (ne_nil hw)] using hw.start

-- A name of letters, digits and underscores of ASCII that starts with a letter.
def isAsciiName (name : String) : Bool :=
  name.toList.head?.any (·.isAlpha) && name.toList.all fun c => c.isAlphanum || c = '_'

theorem exists_of_isAsciiName {name : String} (h : isAsciiName name) :
    ∃ c cs, name.toList = c :: cs ∧ c.isAlpha ∧ ∀ d ∈ c :: cs, d.toNat < 128 := by
  simp only [isAsciiName, Bool.and_eq_true, List.all_eq_true, Bool.or_eq_true, decide_eq_true_eq] at h
  obtain ⟨hc, hcs⟩ := h
  cases hn : name.toList <;> rw [hn] at hc hcs
  case nil => cases hc
  case cons c cs =>
    refine ⟨c, cs, rfl, by simpa using hc, fun d hd => ?_⟩
    cases hcs d hd
    case inl h => exact ascii_of_isAlphanum h
    case inr h => exact h ▸ by decide

theorem flatMap_keep {letter : Char → List Char} {fold : Char → Char} {cs : List Char}
    (hk : ∀ {c}, c.toNat < 128 → keep letter c = if c.isAlphanum then [fold c] else [])
    (h : ∀ c ∈ cs, c.toNat < 128) : cs.flatMap (keep letter) = (cs.filter (·.isAlphanum)).map fold := by
  induction cs
  case nil => rfl
  case cons c cs hi =>
    have ⟨hc, h⟩ := List.forall_mem_cons.mp h
    cases hn : c.isAlphanum <;> simp [hk hc, hn, hi h]

-- Both forms of a name keep its letters and digits, which differ in the case of those behind the first one.
theorem exists_forms {name : String} (h : isAsciiName name) :
    ∃ (c : Char) (cs : List Char), c.isAlpha ∧ (∀ d ∈ c :: cs, d.toNat < 128) ∧
      sanitized name = c.toUpper :: cs.map Char.toUpper ∧
      (capitalized name).toList = c.toUpper :: cs.map Char.toLower := by
  obtain ⟨c, cs, hn, hc, ha⟩ := exists_of_isAsciiName h
  have ⟨hca, hcs⟩ := List.forall_mem_cons.mp ha
  have hk : keep toUpper c = [c.toUpper] := by simp [keep_toUpper_of_ascii hca, Char.isAlphanum, hc]
  refine ⟨c, cs.filter (·.isAlphanum), hc, ?ascii, ?upper, ?capital⟩
  case ascii => exact List.forall_mem_cons.mpr ⟨hca, fun d hd => hcs d (List.mem_of_mem_filter hd)⟩
  case upper =>
    rw [← toList_screaming, screaming, String.toList_ofList, hn, List.flatMap_cons, hk,
      flatMap_keep keep_toUpper_of_ascii hcs, List.singleton_append]
  case capital => simp [capitalized, hn, hk, flatMap_keep keep_toLower_of_ascii hcs]

theorem isWord_capitalized {name : String} (h : isAsciiName name) : IsWord (capitalized name).toList := by
  obtain ⟨c, cs, hc, ha, -, hn⟩ := exists_forms h
  have ⟨hca, hcs⟩ := List.forall_mem_cons.mp ha
  have hl : ∀ d ∈ cs, d.toLower.isUpper = false := fun d hd => (forms_of_ascii (hcs d hd)).left
  rw [hn]
  refine ⟨isUpper_toUpper_of_ascii hca (isLetter_of_ascii hca ▸ hc), List.all_eq_true.mpr ?_⟩
  exact List.forall_mem_map.mpr fun d hd => by rw [hl d hd]; rfl

theorem sanitized_eq {name : String} (h : isAsciiName name) :
    sanitized name = (capitalized name).toList.map Char.toUpper := by
  obtain ⟨c, cs, -, ha, hs, hn⟩ := exists_forms h
  have ⟨hca, hcs⟩ := List.forall_mem_cons.mp ha
  have hl : ∀ d ∈ cs, d.toLower.toUpper = d.toUpper := fun d hd => (forms_of_ascii (hcs d hd)).right.right.left
  rw [hs, hn, List.map_cons, (forms_of_ascii hca).right.left, List.map_map]
  exact congrArg _ (List.map_congr_left fun d hd => (hl d hd).symm)

-- Lower case but for the first character.
def titled : List Char → List Char
  | []      => []
  | c :: cs => c :: cs.map Char.toLower

theorem toList_capitalized {name : String} (h : isAsciiName name) :
    (capitalized name).toList = titled (sanitized name) := by
  obtain ⟨c, cs, -, ha, hs, hn⟩ := exists_forms h
  have hl : ∀ d ∈ c :: cs, d.toUpper.toLower = d.toLower := fun d hd => (forms_of_ascii (ha d hd)).right.right.right
  rw [hn, hs, titled, List.map_map]
  exact congrArg _ (List.map_congr_left fun d hd => (hl d (List.mem_cons_of_mem c hd)).symm)

variable {project : String} {path path' : FieldPath}

theorem toList_sentinelBase (project : String) (path : FieldPath) :
    (sentinelBase project path).toList =
      ("Err" ++ capitalized project).toList ++ (path.segments.map fun name => (capitalized name).toList).flatten := by
  simp [sentinelBase, parts, String.toList_join, List.flatMap_def, Function.comp_def]

-- The prefix is the same on both sides and can be anything.
theorem sentinelBase_eq_iff (h : ∀ name ∈ path.segments, isAsciiName name)
    (h' : ∀ name ∈ path'.segments, isAsciiName name) :
    sentinelBase project path = sentinelBase project path' ↔
      variableName project path = variableName project path' := by
  have words {path : FieldPath} (h : ∀ name ∈ path.segments, isAsciiName name) :=
    IsWord.splitBy_flatten <| List.forall_mem_map.mpr fun name hn => isWord_capitalized (h name hn)
  have upper {path : FieldPath} (h : ∀ name ∈ path.segments, isAsciiName name) :
      path.segments.map sanitized =
        (path.segments.map fun name => (capitalized name).toList).map (·.map Char.toUpper) := by
    rw [List.map_map]
    exact List.map_congr_left fun name hn => sanitized_eq (h name hn)
  have capital {path : FieldPath} (h : ∀ name ∈ path.segments, isAsciiName name) :
      (path.segments.map fun name => (capitalized name).toList) = (path.segments.map sanitized).map titled := by
    rw [List.map_map]
    exact List.map_congr_left fun name hn => toList_capitalized (h name hn)
  rw [variableName_eq_iff, List.cons.injEq, eq_self, true_and, ← String.toList_inj, toList_sentinelBase,
    toList_sentinelBase, List.append_cancel_left_eq]
  constructor
  case mp =>
    intro hs
    have hw := words h ▸ words h' ▸ congrArg (List.splitBy fun _ (c : Char) => !c.isUpper) hs
    rw [upper h, upper h', hw]
  case mpr => exact fun hs => by rw [capital h, capital h', hs]

theorem missingName_eq_iff {project' : String} : missingName project path = missingName project' path' ↔
    sentinelBase project path = sentinelBase project' path' :=
  String.append_left_inj _

theorem invalidName_eq_iff {project' : String} : invalidName project path = invalidName project' path' ↔
    sentinelBase project path = sentinelBase project' path' :=
  String.append_left_inj _

theorem missingName_ne_invalidName {project' : String} :
    missingName project path ≠ invalidName project' path' := by
  intro h
  have h := congrArg String.toList h
  simp only [missingName, invalidName, String.toList_append] at h
  have hs : "EnvMissing".toList = "EnvInvalid".toList := List.append_inj_right' h (by decide)
  exact absurd hs (by decide)

end Naming

namespace Catalog

variable {c : Catalog} {root project : String} {f : Flattened} {l m : Leaf}

theorem mem_identifiers {id : String} : id ∈ l.identifiers ↔ id ∈ l.sentinels ∨ id = l.binding := by
  simp [Leaf.identifiers, Leaf.sentinels, or_assoc]

section

variable (h : c.flatten root project = .ok f)
include h

theorem mem_sentinels (hl : l ∈ f.leaves) {id : String} (hi : id ∈ l.sentinels) :
    id = Naming.missingName project l.path ∨ id = Naming.invalidName project l.path := by
  rw [leaf_of_flatten h hl, Leaf.sentinels, Leaf.ofPath] at hi
  split at hi <;> simp_all

theorem identifiers_nodup (hl : l ∈ f.leaves) : l.identifiers.Nodup := by
  have hs : l.sentinels.Nodup := by
    rw [leaf_of_flatten h hl, Leaf.sentinels, Leaf.ofPath]
    split <;> simp [Naming.missingName_ne_invalidName]
  have hn := hs.concat (binding_not_mem_sentinels h hl l)
  rwa [List.concat_eq_append] at hn

-- A leaf needs each of its identifiers once, so what is taken has been taken by a leaf before it.
theorem collision_of_check {e : Problem} (he : Uniqueness.check f.leaves = .error e) :
    ∃ before l after m, f.leaves = before ++ l :: after ∧ m ∈ before ∧
      (e = .duplicateKey l.key m.name l.name ∧ m.key = l.key ∨ l.key ∉ before.map (·.key) ∧
        ∃ ident ∈ m.identifiers, ident ∈ l.identifiers ∧ e = .duplicateIdentifier ident m.name l.name) := by
  obtain ⟨before, l, after, hs, -, hr⟩ := Uniqueness.check_eq_error.mp he
  cases hr
  case key m hk =>
    have hm : m ∈ before.filter (·.key = l.key) := hk ▸ .head _
    have hm : m ∈ before ∧ m.key = l.key := by simpa using hm
    exact ⟨before, l, after, m, hs, hm.left, .inl ⟨rfl, hm.right⟩⟩
  case identifier own ident rest m hk hi _ hd hf =>
    have hl : l ∈ f.leaves := by simp [hs]
    have ho : ident ∉ own := by
      have hn := identifiers_nodup h hl
      rw [hi, List.nodup_append] at hn
      exact fun ho => hn.right.right ident ho ident (.head _) rfl
    have hb : before.find? (ident ∈ ·.identifiers) = some m := by
      obtain ⟨m', hm', hi'⟩ := List.mem_flatMap.mp ((List.mem_append.mp hd).resolve_right ho)
      have hi' := List.find?_isSome (p := (ident ∈ ·.identifiers)).mpr ⟨m', hm', by simpa using hi'⟩
      obtain ⟨m', hm'⟩ := Option.isSome_iff_exists.mp hi'
      simpa [List.find?_append, hm'] using hf
    have hmi : ident ∈ m.identifiers := by simpa using List.find?_some hb
    exact ⟨before, l, after, m, hs, List.mem_of_find?_eq_some hb, .inr ⟨hk, ident, hmi, by simp [hi], rfl⟩⟩

variable (hn : ∀ l ∈ f.leaves, ∀ name ∈ l.path.segments, Naming.isAsciiName name)
include hn

-- Which of the two problems is reported makes no difference, as one is never taken for the other.
theorem key_eq_of_mem_sentinels (hl : l ∈ f.leaves) (hm : m ∈ f.leaves) {id : String}
    (hli : id ∈ l.sentinels) (hmi : id ∈ m.sentinels) : l.key = m.key := by
  have hb : Naming.sentinelBase project l.path = Naming.sentinelBase project m.path := by
    obtain rfl | rfl := mem_sentinels h hl hli <;> obtain he | he := mem_sentinels h hm hmi
    case inl.inl => exact Naming.missingName_eq_iff.mp he
    case inl.inr => exact absurd he Naming.missingName_ne_invalidName
    case inr.inl => exact absurd he.symm Naming.missingName_ne_invalidName
    case inr.inr => exact Naming.invalidName_eq_iff.mp he
  rw [leaf_of_flatten h hl, leaf_of_flatten h hm]
  exact (Naming.sentinelBase_eq_iff (hn l hl) (hn m hm)).mp hb

theorem bindings_of_check {ident first second : String}
    (he : Uniqueness.check f.leaves = .error (.duplicateIdentifier ident first second)) :
    ∃ before l after m, f.leaves = before ++ l :: after ∧ m ∈ before ∧
      ident = m.binding ∧ first = m.name ∧ ident = l.binding ∧ second = l.name := by
  obtain ⟨before, l, after, m, hs, hmb, ⟨⟨⟩, -⟩ | ⟨hk, _, hmi, hli, ⟨⟩⟩⟩ := collision_of_check h he
  have hl : l ∈ f.leaves := by simp [hs]
  have hm : m ∈ f.leaves := by simp [hs, hmb]
  refine ⟨before, l, after, m, hs, hmb, ?_⟩
  obtain hli | rfl := mem_identifiers.mp hli <;> obtain hmi | hmi := mem_identifiers.mp hmi
  case inl.inl => exact absurd (List.mem_map.mpr ⟨m, hmb, (key_eq_of_mem_sentinels h hn hl hm hli hmi).symm⟩) hk
  case inl.inr => exact absurd (hmi ▸ hli) (binding_not_mem_sentinels h hl m)
  case inr.inl => exact absurd hmi (binding_not_mem_sentinels h hm l)
  case inr.inr => exact ⟨hmi, rfl, rfl, rfl⟩

end

end Catalog

namespace Naming

-- Without names that start with an underscore, two leaves whose problems are reported alike are read from the
-- same variable. So an identifier that is needed twice by leaves with variables of their own is that of a local
-- variable.
theorem sentinels_separate_as_keys :
    (∀ (p : String) (a b : FieldPath), (∀ name ∈ a.segments, isAsciiName name) →
      (∀ name ∈ b.segments, isAsciiName name) →
      (missingName p a = missingName p b ↔ invalidName p a = invalidName p b) ∧
      (invalidName p a = invalidName p b ↔ variableName p a = variableName p b)) ∧
    ∀ (c : Catalog) (root p : String) (f : Flattened), c.flatten root p = .ok f →
      (∀ l ∈ f.leaves, ∀ name ∈ l.path.segments, isAsciiName name) →
      ∀ ident first second,
        Uniqueness.check f.leaves = .error (.duplicateIdentifier ident first second) →
        ∃ before l after m, f.leaves = before ++ l :: after ∧ m ∈ before ∧
          ident = m.binding ∧ first = m.name ∧ ident = l.binding ∧ second = l.name := by
  refine ⟨?names, fun c root p f h hn ident first second => Catalog.bindings_of_check h hn⟩
  case names =>
    intro p a b ha hb
    exact ⟨missingName_eq_iff.trans invalidName_eq_iff.symm,
      invalidName_eq_iff.trans (sentinelBase_eq_iff ha hb)⟩

-- Behind an underscore a name starts with a lower-case letter, and goes on from the name before it.
example : missingName "APP" ⟨["a", "_b"]⟩ = missingName "APP" ⟨["ab"]⟩ ∧
    variableName "APP" ⟨["a", "_b"]⟩ ≠ variableName "APP" ⟨["ab"]⟩ := by
  decide

end Naming

namespace Catalog

def mainHost : Ident :=
  .plain "main_host"

-- The first field has the name of the local variable for a field of the second one.
def rack : RecordDecl where
  ident  := .plain "Rack"
  fields := [
    ⟨[mainHost], plainType (.plain "u16")⟩,
    ⟨[main], plainType server.ident⟩]

theorem sentinels_of_rack :
    Naming.invalidName "ß" ⟨["main", "h_ost"]⟩ = Naming.invalidName "ß" ⟨["Main", "hosT"]⟩ ∧
    ∃ f before l after m, (clusters.insert rack).flatten "Rack" "APP" = .ok f ∧
      f.leaves = before ++ l :: after ∧ m ∈ before ∧
      "val_main_host" = m.binding ∧ "main_host" = m.name ∧ "val_main_host" = l.binding ∧ "main.host" = l.name := by
  constructor
  case left =>
    have h := Naming.sentinels_separate_as_keys.left "ß" ⟨["main", "h_ost"]⟩ ⟨["Main", "hosT"]⟩
      (by decide) (by decide)
    exact h.right.mpr (by decide)
  case right =>
    obtain ⟨f, hf, h⟩ := exists_of_any (x := (clusters.insert rack).flatten "Rack" "APP")
      (p := fun f => f.leaves.all (·.path.segments.all Naming.isAsciiName) &&
        Uniqueness.check f.leaves = .error (.duplicateIdentifier "val_main_host" "main_host" "main.host"))
      (by decide +kernel)
    simp only [Bool.and_eq_true, List.all_eq_true, decide_eq_true_eq] at h
    obtain ⟨before, l, after, m, hs⟩ :=
      Naming.sentinels_separate_as_keys.right _ _ _ f hf h.left _ _ _ h.right
    exact ⟨f, before, l, after, m, hf, hs⟩

end Catalog
end EnvConfig
