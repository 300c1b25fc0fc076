import EnvConfig.Proofs.Generation
import EnvConfig.Proofs.Identifiers
import EnvConfig.Proofs.Keys
import EnvConfig.Proofs.LetterCase
import EnvConfig.Samples

-- Which derived names are identifiers: all of them, but for the constants of a prefix that starts with a digit. A
-- run thus fails for want of an identifier if there is such a constant, or if a record that is imported can only be
-- named by a raw identifier.

namespace EnvConfig

open Source Text

theorem isWord_append {s t : List Char} (hs : isWord s) (ht : ∀ c ∈ t, isNameContinue c) : isWord (s ++ t) := by
  cases s
  case nil => cases hs
  case cons => simp_all [isWord]

theorem isNameContinue_of_isWord {s : List Char} {c : Char} (hs : isWord s) (hc : c ∈ s) : isNameContinue c :=
  (start_or_continue_of_isWord hs hc).elim isNameContinue_of_isNameStart id

-- A letter, a digit or an underscore of ASCII, of which the fixed parts of derived names are made.
def isFixed (c : Char) : Bool :=
  c.toNat < 128 && (c.isAlphanum || c == '_')

theorem name_of_isFixed {c : Char} (h : isFixed c) : isNameContinue c ∧ (c.isDigit = false → isNameStart c) := by
  simp only [isFixed, Bool.and_eq_true, decide_eq_true_eq] at h
  obtain ⟨ha, hn⟩ := h
  obtain ⟨hs, hc⟩ := isName_of_ascii ha
  exact ⟨hc.trans hn, fun hd => by simpa [hs, Char.isAlphanum, hd] using hn⟩

theorem isNameStart_of_isUpper {c : Char} (h : c.isUpper) : isNameStart c := by
  have ha : c.isAlpha := isAlpha_iff.mpr (.inl h)
  rw [(isName_of_ascii (ascii_of_isAlphanum (by simp [Char.isAlphanum, ha]))).left, ha, Bool.true_or]

theorem isNameContinue_of_all {s : List Char} (h : s.all isFixed) : ∀ c ∈ s, isNameContinue c :=
  fun _ hc => (name_of_isFixed (List.all_eq_true.mp h _ hc)).left

theorem isWord_of_all {s : List Char} (h : s.all isFixed && s.head?.any (!·.isDigit)) : isWord s := by
  simp only [Bool.and_eq_true] at h
  obtain ⟨hs, hd⟩ := h
  cases s
  case nil => cases hd
  case cons c cs =>
    have hc := (name_of_isFixed (List.all_eq_true.mp hs c (.head _))).right (by simpa using hd)
    simp only [isWord, hc, Bool.true_and, List.all_eq_true]
    exact fun d hd => isNameContinue_of_all hs d (.tail _ hd)

namespace Naming

-- A word that is not reserved.
structure IsIdentifier (name : String) : Prop where
  word : isWord name.toList
  free : name ∉ Token.keywords

-- No reserved word has a capital E in it, and none that has an l has an underscore.
theorem free_of_mem {name : String} (h : 'E' ∈ name.toList ∨ 'l' ∈ name.toList ∧ '_' ∈ name.toList) :
    name ∉ Token.keywords := by
  intro hk
  have ha : Token.keywords.all fun k =>
      !(k.toList.contains 'E' || k.toList.contains 'l' && k.toList.contains '_') := by decide
  have ha := List.all_eq_true.mp ha name hk
  simp only [Bool.not_eq_true', Bool.eq_false_iff, ne_eq, Bool.or_eq_true, Bool.and_eq_true,
    List.contains_iff_mem] at ha
  exact ha h

theorem isIdentifier_append {name suffix : String} (hw : isWord name.toList)
    (hs : suffix.toList.all isFixed && suffix.toList.contains 'E') : IsIdentifier (name ++ suffix) := by
  simp only [Bool.and_eq_true, List.contains_iff_mem] at hs
  refine ⟨?word, free_of_mem (.inl ?free)⟩
  all_goals rw [String.toList_append]
  case word => exact isWord_append hw (isNameContinue_of_all hs.left)
  case free => exact List.mem_append.mpr (.inr hs.right)

theorem isIdentifier_prepend {lead name : String}
    (hl : lead.toList.all isFixed && lead.toList.head?.any (!·.isDigit) && lead.toList.contains 'l' &&
      lead.toList.contains '_')
    (hn : ∀ c ∈ name.toList, isNameContinue c) : IsIdentifier (lead ++ name) := by
  rw [Bool.and_eq_true, Bool.and_eq_true, List.contains_iff_mem, List.contains_iff_mem] at hl
  obtain ⟨⟨hw, hl⟩, hu⟩ := hl
  refine ⟨?word, free_of_mem (.inr ⟨?letter, ?underscore⟩)⟩
  all_goals rw [String.toList_append]
  case word => exact isWord_append (isWord_of_all hw) hn
  case letter => exact List.mem_append.mpr (.inl hl)
  case underscore => exact List.mem_append.mpr (.inl hu)

-- A part of which only characters of identifiers are kept.
def Fits (part : String) : Prop :=
  ∀ c ∈ part.toList, isAlphanumeric c → isNameContinue c

variable {part project : String} {path : FieldPath} {c : Char}

theorem fits_ident (i : Ident) : Fits i.name :=
  fun _ hc _ => isNameContinue_of_isWord i.word hc

theorem fits_of_ascii (h : ∀ c ∈ part.toList, c.toNat < 128) : Fits part := by
  intro c hc ha
  have hc := h c hc
  rw [(isName_of_ascii hc).right, Char.isAlphanum, ← isNumeral_of_ascii hc, ← isLetter_of_ascii hc]
  exact Bool.or_eq_true_iff.mpr (.inl ha)

theorem isNameContinue_of_mem_keep {letter : Char → List Char} {d : Char}
    (hl : ∀ {d}, isNameContinue c → d ∈ letter c → isNameContinue d) (hc : isAlphanumeric c → isNameContinue c)
    (h : d ∈ keep letter c) : isNameContinue d := by
  obtain ⟨hn, rfl⟩ | ⟨hn, hd⟩ := of_mem_keep h
  case inl => exact hc (by simp [isAlphanumeric, hn])
  case inr => exact hl (hc (by simp [isAlphanumeric, hn])) hd

theorem isNameContinue_of_mem_sanitized (hp : Fits part) (h : c ∈ sanitized part) : isNameContinue c := by
  rw [← toList_screaming] at h
  obtain ⟨d, hd, h⟩ := List.mem_flatMap.mp (String.toList_ofList ▸ h)
  exact isNameContinue_of_mem_keep isNameContinue_of_mem_toUpper (hp d hd) h

theorem isNameContinue_of_mem_capitalized (hp : Fits part) (h : c ∈ (capitalized part).toList) :
    isNameContinue c := by
  unfold capitalized at h
  split at h
  case h_1 => cases h
  case h_2 d ds hd =>
    unfold Fits at hp
    rw [hd] at hp
    rw [String.toList_ofList, List.mem_append, List.mem_flatMap] at h
    obtain h | ⟨e, he, h⟩ := h
    case inl => exact isNameContinue_of_mem_keep isNameContinue_of_mem_toUpper (hp d (.head _)) h
    case inr => exact isNameContinue_of_mem_keep isNameContinue_of_mem_toLower (hp e (.tail _ he)) h

section Names

variable (hp : ∀ part ∈ parts project path, Fits part)
include hp

theorem isNameContinue_of_mem_variableName (h : c ∈ (variableName project path).toList) : isNameContinue c := by
  rw [toList_variableName] at h
  obtain rfl | ⟨_, hw, h⟩ := mem_intercalate_singleton h
  case inl => exact (name_of_isFixed (by decide)).left
  case inr =>
    obtain ⟨part, hm, rfl⟩ := List.mem_map.mp hw
    exact isNameContinue_of_mem_sanitized (hp part hm) h

theorem isWord_sentinelBase : isWord (sentinelBase project path).toList := by
  rw [sentinelBase, String.toList_append, String.toList_join]
  refine isWord_append (isWord_of_all (by decide)) fun c hc => ?_
  obtain ⟨_, hw, hc⟩ := List.mem_flatMap.mp hc
  obtain ⟨part, hm, rfl⟩ := List.mem_map.mp hw
  exact isNameContinue_of_mem_capitalized (hp part hm) hc

theorem isIdentifier_missingName : IsIdentifier (missingName project path) :=
  isIdentifier_append (isWord_sentinelBase hp) (by decide)

theorem isIdentifier_invalidName : IsIdentifier (invalidName project path) :=
  isIdentifier_append (isWord_sentinelBase hp) (by decide)

end Names

theorem isIdentifier_binding {names : List Ident} (h : path.segments = names.map (·.name)) :
    IsIdentifier path.binding := by
  refine isIdentifier_prepend (by decide) fun c hc => ?_
  have hc : c ∈ ['_'].intercalate _ := String.toList_intercalate ▸ hc
  obtain rfl | ⟨_, hw, hc⟩ := mem_intercalate_singleton hc
  case inl => exact (name_of_isFixed (by decide)).left
  case inr =>
    simp only [h, List.map_map, List.mem_map, Function.comp_apply] at hw
    obtain ⟨i, -, rfl⟩ := hw
    exact isNameContinue_of_isWord i.word hc

theorem isIdentifier_sentinelsName (i : Ident) : IsIdentifier (sentinelsName i.name) :=
  isIdentifier_append i.word (by decide)

theorem isIdentifier_loadErrorName (i : Ident) : IsIdentifier (loadErrorName i.name) :=
  isIdentifier_append i.word (by decide)

theorem isIdentifier_loaderName (i : Ident) : IsIdentifier (loaderName i.name) := by
  refine isIdentifier_prepend (by decide) fun c hc => ?_
  obtain rfl | rfl | ⟨d, hd, hc⟩ := SnakeCase.of_mem_snakeCase (String.toList_ofList ▸ hc)
  case inl => exact (name_of_isFixed (by decide)).left
  case inr.inl => decide
  case inr.inr => exact isNameContinue_of_mem_toLower (isNameContinue_of_isWord i.word hd) hc

-- Whether the first character of a prefix that counts is a digit.
def startsWithDigit (project : String) : Bool :=
  (project.toList.find? isAlphanumeric).any Char.isDigit

theorem exists_head_variableName (path : FieldPath) (hq : project.toList.any isAlphanumeric)
    (ha : ∀ c ∈ project.toList, c.toNat < 128) :
    ∃ c cs, (variableName project path).toList = c :: cs ∧
      if startsWithDigit project then c.isDigit else isNameStart c := by
  obtain ⟨d, hd⟩ := Option.isSome_iff_exists.mp (List.find?_isSome.mpr (List.any_eq_true.mp hq))
  have ha := ha d (List.mem_of_find?_eq_some hd)
  have hn := isNumeral_of_ascii ha
  obtain ⟨tail, hs⟩ := exists_sanitized_append hd
  have hh : ∃ c cs, sanitized project = c :: cs ∧
      if startsWithDigit project then c.isDigit else isNameStart c := by
    simp only [startsWithDigit, hd, Option.any_some]
    cases hc : d.isDigit
    case true => exact ⟨d, tail, by simp [hs, hn, hc], by simpa using hc⟩
    case false =>
      have hl : isLetter d := by simpa [isAlphanumeric, hn, hc] using List.find?_some hd
      have hu := isNameStart_of_isUpper (isUpper_toUpper_of_ascii ha hl)
      exact ⟨d.toUpper, tail, by simp [hs, hn, hc, toUpper_of_ascii ha], by simpa using hu⟩
  obtain ⟨c, cs, hs, hc⟩ := hh
  obtain ⟨rest, hr⟩ := exists_intercalate_cons '_' c cs (path.segments.map sanitized)
  exact ⟨c, rest, by rw [toList_variableName, parts, List.map_cons, hs, hr], hc⟩

theorem isIdentifier_constantName (hq : project.toList.any isAlphanumeric)
    (ha : ∀ c ∈ project.toList, c.toNat < 128) (hd : startsWithDigit project = false)
    (hp : ∀ part ∈ parts project path, Fits part) : IsIdentifier (constantName (variableName project path)) := by
  refine isIdentifier_append ?_ (by decide)
  obtain ⟨c, cs, hk, hc⟩ := exists_head_variableName path hq ha
  have hm : ∀ d ∈ c :: cs, isNameContinue d := fun d h => isNameContinue_of_mem_variableName hp (hk ▸ h)
  simp only [hd, Bool.false_eq_true, if_false] at hc
  simp only [hk, isWord, hc, Bool.true_and, List.all_eq_true]
  exact fun d h => hm d (.tail _ h)

end Naming

theorem identifier_of_isIdentifier {name : String} (field : String) (h : Naming.IsIdentifier name) :
    identifier name field = .ok name := by
  rw [identifier_of_isWord field h.word, if_neg h.free]

-- The identifiers of a leaf, and those of a module but for the types that it imports.
def LeafNames.all (n : LeafNames) : List String :=
  n.constant :: n.binding :: n.missing :: n.invalid.toList

def ModuleNames.all (n : ModuleNames) : List String :=
  n.leaves.flatMap (·.all) ++ [n.sentinels, n.loadError, n.loader]

theorem LeafNames.ofLeaf_eq {l : Leaf} (h : ∀ name ∈ l.names.all, Naming.IsIdentifier name) :
    ofLeaf l = .ok l.names := by
  simp only [all, Leaf.names, List.forall_mem_cons] at h
  obtain ⟨hc, hb, hm, hi⟩ := h
  have hi : (l.invalid.mapM fun name => identifier name l.name) = .ok l.invalid := by
    cases he : l.invalid
    case none => rfl
    case some name =>
      simp [identifier_of_isIdentifier l.name (hi name (by simp [he]))]
  simp only [ofLeaf, identifier_of_isIdentifier _ hc, identifier_of_isIdentifier _ hb,
    identifier_of_isIdentifier _ hm, hi]
  rfl

section Flattened

variable {c : Catalog} {root project : String} {f : Flattened}

section

variable (h : c.flatten root project = .ok f) (hq : project.toList.any isAlphanumeric)
  (ha : ∀ c ∈ project.toList, c.toNat < 128)
include h ha

theorem Catalog.fits_of_flatten {l : Leaf} (hl : l ∈ f.leaves) :
    ∀ part ∈ Naming.parts project l.path, Naming.Fits part := by
  obtain ⟨names, -, hn⟩ := Catalog.segments_of_flatten h hl
  simp only [Naming.parts, hn, List.forall_mem_cons, List.forall_mem_map]
  exact ⟨Naming.fits_of_ascii ha, fun i _ => Naming.fits_ident i⟩

include hq

theorem Flattened.isIdentifier_names (hd : f.leaves ≠ [] → Naming.startsWithDigit project = false) :
    ∀ name ∈ f.names.all, Naming.IsIdentifier name := by
  simp only [names, ModuleNames.all, List.forall_mem_append, List.forall_mem_cons]
  refine ⟨?leaves, Naming.isIdentifier_sentinelsName _, Naming.isIdentifier_loadErrorName _,
    Naming.isIdentifier_loaderName _, List.forall_mem_nil _⟩
  case leaves =>
    intro name hn
    simp only [List.mem_flatMap, List.mem_map] at hn
    obtain ⟨_, ⟨l, hl, rfl⟩, hn⟩ := hn
    have hp := Catalog.fits_of_flatten h ha hl
    have he := Catalog.leaf_of_flatten h hl
    obtain ⟨names, -, hs⟩ := Catalog.segments_of_flatten h hl
    simp only [LeafNames.all, Leaf.names, List.mem_cons, Option.mem_toList] at hn
    obtain rfl | rfl | rfl | hi := hn
    case inl =>
      rw [he]
      exact Naming.isIdentifier_constantName hq ha (hd (List.ne_nil_of_mem hl)) hp
    case inr.inl => exact Naming.isIdentifier_binding hs
    case inr.inr.inl =>
      rw [he]
      exact Naming.isIdentifier_missingName hp
    case inr.inr.inr =>
      rw [he] at hi
      simp only [Leaf.ofPath, Option.ite_none_right_eq_some, Option.some.injEq] at hi
      exact hi.right ▸ Naming.isIdentifier_invalidName hp

theorem ModuleNames.ofFlattened_eq (hd : f.leaves ≠ [] → Naming.startsWithDigit project = false) :
    ofFlattened f = .ok f.names := by
  have hi := f.isIdentifier_names h hq ha hd
  simp only [all, Flattened.names, List.forall_mem_append, List.forall_mem_cons] at hi
  obtain ⟨hl, hs, he, hf, -⟩ := hi
  have hl : f.leaves.mapM LeafNames.ofLeaf = .ok (f.leaves.map (·.names)) := mapM_eq_ok fun l hm =>
    LeafNames.ofLeaf_eq fun name hn => hl name (List.mem_flatMap.mpr ⟨_, List.mem_map_of_mem hm, hn⟩)
  simp only [ofFlattened, hl, identifier_of_isIdentifier _ hs, identifier_of_isIdentifier _ he,
    identifier_of_isIdentifier _ hf]
  rfl

theorem ModuleNames.ofFlattened_eq_error {l : Leaf} {rest : List Leaf} (hl : f.leaves = l :: rest)
    (hd : Naming.startsWithDigit project) :
    ofFlattened f = .error (.invalidIdentifier (Naming.constantName l.key) l.name) := by
  have hm : l ∈ f.leaves := hl ▸ .head rest
  have hs := Catalog.nameable_of_flatten h l hm
  obtain ⟨c, cs, hk, hc⟩ := Naming.exists_head_variableName l.path hq ha
  have hk : (Naming.constantName l.key).toList = c :: (cs ++ "_ENV".toList) := by
    rw [Catalog.leaf_of_flatten h hm, Naming.constantName, String.toList_append, Leaf.ofPath, hk, List.cons_append]
  simp only [hd, if_true] at hc
  simp only [ofFlattened, hl, List.mapM_cons, LeafNames.ofLeaf,
    identifier_of_isDigit l.name hk hc hs.key.constantName]
  rfl

end

theorem mapM_identifier {names : List String} (h : ∀ n ∈ names, isWord n.toList) :
    (names.mapM fun n => identifier n n) = match names.find? (· ∈ Token.keywords) with
      | some n => .error (.invalidIdentifier n n)
      | none   => .ok names := by
  induction names
  case nil => rfl
  case cons n names hi =>
    have ⟨hn, h⟩ := List.forall_mem_cons.mp h
    rw [List.mapM_cons, identifier_of_isWord n hn, hi h]
    by_cases hk : n ∈ Token.keywords
    case pos => simp [hk, bind, Except.bind]
    case neg =>
      cases hf : names.find? (· ∈ Token.keywords)
      all_goals simp [hk, hf, bind, Except.bind, pure, Except.pure]

-- The types of the layout that cannot be imported: the first one is reported.
theorem Module.importItem_some (f : Flattened) (path : List Token) (gate : Option (List Token)) :
    importItem f ⟨some path, gate⟩ = match f.layout.typeNames.find? (· ∈ Token.keywords) with
      | some n => .error (.invalidIdentifier n n)
      | none   => .ok [⟨gate, .imports path f.layout.typeNames⟩] := by
  have hw : ∀ n ∈ f.layout.typeNames, isWord n.toList := by
    intro n hn
    obtain ⟨r, -, rfl⟩ := Record.mem_typeNames.mp hn
    exact r.type.word
  simp only [importItem, mapM_identifier hw]
  cases f.layout.typeNames.find? (· ∈ Token.keywords) <;> rfl

-- With all names of its own, a module can only fail for want of those that it imports.
theorem Module.build_eq_error {project : String} {o : ModuleOptions} {e : Problem} {n : ModuleNames}
    (hn : ModuleNames.ofFlattened f = .ok n) : build project f o = .error e ↔
      ∃ name, o.typesPath.isSome ∧ f.layout.typeNames.find? (· ∈ Token.keywords) = some name ∧
        e = .invalidIdentifier name name := by
  have hb : build project f o = .error e ↔ importItem f o = .error e := by
    simp only [build, hn]
    exact bind_pure_eq_error
  rw [hb]
  obtain ⟨path, gate⟩ := o
  cases path
  case none => simp [importItem]
  case some path =>
    rw [importItem_some]
    cases f.layout.typeNames.find? (· ∈ Token.keywords) <;> simp [eq_comm]

end Flattened

namespace Naming

theorem ascii_of_project? {text q : String} (h : project? text = some q) (ha : ∀ c ∈ text.toList, c.toNat < 128) :
    ∀ c ∈ q.toList, c.toNat < 128 := by
  rw [(toList_of_project? h).left]
  intro c hc
  obtain ⟨d, hd, hc⟩ := List.mem_flatMap.mp hc
  have hd : d ∈ text.toList := by
    have hd := (List.dropWhile_sublist _).mem (List.mem_reverse.mp hd)
    exact (List.dropWhile_sublist _).mem (List.mem_reverse.mp hd)
  rw [toUpper_of_ascii (ha d hd), List.mem_singleton] at hc
  exact hc ▸ of_ascii (p := fun d => d.toUpper.toNat < 128) (by decide) (ha d hd)

end Naming

theorem Module.check_ne_invalidIdentifier (m : Module) {n field : String} :
    m.check ≠ .error (.invalidIdentifier n field) := by
  intro h
  obtain ⟨i, -, h⟩ := forM_eq_error h
  rw [checkItem_eq, checkCode] at h
  split at h <;> cases h

namespace Generator

variable {g : Generator} {name source q : String} {o : ModuleOptions} {c : Catalog} {f : Flattened}
  (hp : g.project? = .ok q) (ho : g.options = .ok o) (hc : catalog name source = .ok c)
  (hf : c.flatten g.root q = .ok f) (hu : Uniqueness.check f.leaves = .ok ())

include hp ho hc hf hu in
-- Of the steps behind the check for collisions, only the one that builds the module needs identifiers.
theorem generate_eq_invalidIdentifier {n field : String} :
    g.generate name source = .error (.invalidIdentifier n field) ↔
      Module.build q f o = .error (.invalidIdentifier n field) := by
  have hg : g.generate name source = Module.render q f o >>= fun m => pure ⟨g.root, m, f.leaves⟩ := by
    calc
      _ = (c.flatten g.root q >>= fun f => Uniqueness.check f.leaves >>= fun _ =>
          Module.render q f o >>= fun m => pure ⟨g.root, m, f.leaves⟩) := by
        rw [generate, hp, ho, hc]
        rfl
      _ = _ := by
        rw [hf]
        change (Uniqueness.check f.leaves >>= _) = _
        rw [hu]
        rfl
  rw [hg, bind_pure_eq_error, Module.render, bind_eq_error]
  refine or_iff_left ?_
  rintro ⟨m, -, h⟩
  exact m.check_ne_invalidIdentifier (bind_pure_eq_error.mp h)

include hp in
theorem ascii_of_project (ha : ∀ c ∈ g.project.toList, c.toNat < 128) :
    (∀ c ∈ q.toList, c.toNat < 128) ∧ q.toList.any isAlphanumeric := by
  unfold project? at hp
  split at hp
  case h_2 => cases hp
  case h_1 h =>
    cases hp
    exact ⟨Naming.ascii_of_project? h ha, (Naming.toList_of_project? h).right⟩

section Outcomes

variable (ha : ∀ c ∈ g.project.toList, c.toNat < 128)
include hp ho hc hf hu ha

theorem generate_eq_error_of_startsWithDigit {l : Leaf} {rest : List Leaf} (hl : f.leaves = l :: rest)
    (hd : Naming.startsWithDigit q) :
    g.generate name source = .error (.invalidIdentifier (Naming.constantName l.key) l.name) := by
  obtain ⟨ha, hq⟩ := ascii_of_project hp ha
  refine (generate_eq_invalidIdentifier hp ho hc hf hu).mpr ?_
  simp only [Module.build, ModuleNames.ofFlattened_eq_error hf hq ha hl hd]
  rfl

-- Where all names that are derived are identifiers, one that is imported is none.
theorem generate_eq_invalidIdentifier_iff_import {n field : String}
    (hd : f.leaves ≠ [] → Naming.startsWithDigit q = false) :
    g.generate name source = .error (.invalidIdentifier n field) ↔
      g.typesPath.isSome ∧ f.layout.typeNames.find? (· ∈ Token.keywords) = some n ∧ n = field := by
  obtain ⟨ha, hq⟩ := ascii_of_project hp ha
  rw [generate_eq_invalidIdentifier hp ho hc hf hu,
    Module.build_eq_error (ModuleNames.ofFlattened_eq hf hq ha hd), isSome_typesPath_of_options ho]
  constructor
  case mp =>
    rintro ⟨n, hs, hn, he⟩
    cases he
    exact ⟨hs, hn, rfl⟩
  case mpr =>
    rintro ⟨hs, hn, rfl⟩
    exact ⟨n, hs, hn, rfl⟩

end Outcomes

-- A run fails for want of an identifier where a constant would start with a digit, and where a record that is
-- imported has the name of a reserved word.
theorem invalidIdentifier_iff (hp : g.project? = .ok q) (ho : g.options = .ok o) (hc : catalog name source = .ok c)
    (hf : c.flatten g.root q = .ok f) (hu : Uniqueness.check f.leaves = .ok ())
    (ha : ∀ c ∈ g.project.toList, c.toNat < 128) :
    ((∃ n field, g.generate name source = .error (.invalidIdentifier n field)) ↔
      (f.leaves ≠ [] ∧ Naming.startsWithDigit q) ∨
        (g.typesPath.isSome ∧ ∃ r ∈ f.layout.records, r.type.name ∈ Token.keywords)) ∧
    (∀ l ∈ f.leaves.head?, Naming.startsWithDigit q →
      g.generate name source = .error (.invalidIdentifier (Naming.constantName l.key) l.name)) ∧
    ((f.leaves ≠ [] → Naming.startsWithDigit q = false) →
      ModuleNames.ofFlattened f = .ok f.names ∧ (∀ id ∈ f.names.all, Naming.IsIdentifier id) ∧
      ∀ n field, g.generate name source = .error (.invalidIdentifier n field) →
        n = field ∧ n ∈ Token.keywords ∧ ∃ r ∈ f.layout.records, r.type.name = n) := by
  have hdigit {l : Leaf} {rest : List Leaf} (hl : f.leaves = l :: rest) :=
    generate_eq_error_of_startsWithDigit hp ho hc hf hu ha hl
  have himport {n field : String} (hd : f.leaves ≠ [] → Naming.startsWithDigit q = false) :
      g.generate name source = .error (.invalidIdentifier n field) ↔ _ :=
    generate_eq_invalidIdentifier_iff_import hp ho hc hf hu ha hd
  refine ⟨?iff, ?digit, fun hd => ⟨?names, ?valid, ?name⟩⟩
  case names =>
    obtain ⟨ha, hq⟩ := ascii_of_project hp ha
    exact ModuleNames.ofFlattened_eq hf hq ha hd
  case valid =>
    obtain ⟨ha, hq⟩ := ascii_of_project hp ha
    exact f.isIdentifier_names hf hq ha hd
  case digit =>
    intro l hl hd
    obtain ⟨rest, hl⟩ := List.head?_eq_some_iff.mp hl
    exact hdigit hl hd
  case name =>
    intro n field h
    obtain ⟨-, hn, rfl⟩ := (himport hd).mp h
    obtain ⟨r, hr, hn'⟩ := Record.mem_typeNames.mp (List.mem_of_find?_eq_some hn)
    exact ⟨rfl, by simpa using List.find?_some hn, r, hr, hn'⟩
  case iff =>
    by_cases hd : f.leaves ≠ [] ∧ Naming.startsWithDigit q
    case pos =>
      obtain ⟨l, rest, hl⟩ := List.exists_cons_of_ne_nil hd.left
      exact iff_of_true ⟨_, _, hdigit hl hd.right⟩ (.inl hd)
    case neg =>
      have hd' : f.leaves ≠ [] → Naming.startsWithDigit q = false := by simpa using hd
      calc
        _ ↔ g.typesPath.isSome ∧ (f.layout.typeNames.find? (· ∈ Token.keywords)).isSome := by
          simp [himport hd', Option.isSome_iff_exists]
        _ ↔ g.typesPath.isSome ∧ ∃ r ∈ f.layout.records, r.type.name ∈ Token.keywords := by
          simp [List.find?_isSome, Record.mem_typeNames]
        _ ↔ _ := (or_iff_right hd).symm

end Generator

namespace Sample

-- A record with the name of a reserved word, which a field can have for its type, but which no import can name.
def reserved (project : String) : Sample where
  name      := "reserved"
  generator := (Generator.ofRoot "C").withProject project
  source    := "struct C \x7b a: r#type \x7d struct r#type \x7b n: u8 \x7d"

-- The results of a run up to the check for collisions.
def expanded (s : Sample) : Except Problem (String × ModuleOptions × Catalog × Flattened) := do
  let project ← s.generator.project?
  let options ← s.generator.options
  let catalog ← Generator.catalog s.name s.source
  let flattened ← catalog.flatten s.generator.root project
  Uniqueness.check flattened.leaves
  return (project, options, catalog, flattened)

theorem of_expanded {s : Sample} {q : String} {o : ModuleOptions} {c : Catalog} {f : Flattened}
    (h : s.expanded = .ok (q, o, c, f)) : s.generator.project? = .ok q ∧ s.generator.options = .ok o ∧
      Generator.catalog s.name s.source = .ok c ∧ c.flatten s.generator.root q = .ok f ∧
      Uniqueness.check f.leaves = .ok () := by
  simp only [expanded, bind_eq_ok, pure_eq_ok, Prod.mk.injEq] at h
  obtain ⟨_, hp, _, ho, _, hc, _, hf, _, hu, rfl, rfl, rfl, rfl⟩ := h
  exact ⟨hp, ho, hc, hf, hu⟩

theorem reserved_invalidIdentifier :
    (reserved "-1a").generate = .error (.invalidIdentifier "1A_A_N_ENV" "a.n") ∧
    ∃ n field, (reserved "app").generate = .error (.invalidIdentifier n field) := by
  constructor
  case left =>
    obtain ⟨⟨q, o, c, f⟩, h, hl⟩ := exists_of_any (x := (reserved "-1a").expanded)
      (p := fun (q, _, _, f) => Naming.startsWithDigit q &&
        f.leaves.head?.map (fun l => (Naming.constantName l.key, l.name)) = some ("1A_A_N_ENV", "a.n"))
      (by decide +kernel)
    obtain ⟨hp, ho, hc, hf, hu⟩ := of_expanded h
    have ha : ∀ c ∈ (reserved "-1a").generator.project.toList, c.toNat < 128 := by
      simp [reserved, Generator.withProject]
    simp only [Bool.and_eq_true, decide_eq_true_eq, Option.map_eq_some_iff, Prod.mk.injEq] at hl
    obtain ⟨hd, l, hl, hk, hn⟩ := hl
    have hg := (Generator.invalidIdentifier_iff hp ho hc hf hu ha).right.left l hl hd
    rwa [hk, hn] at hg
  case right =>
    obtain ⟨⟨q, o, c, f⟩, h, hl⟩ := exists_of_any (x := (reserved "app").expanded)
      (p := fun (_, _, _, f) => f.layout.records.any (·.type.name ∈ Token.keywords)) (by decide +kernel)
    obtain ⟨hp, ho, hc, hf, hu⟩ := of_expanded h
    have ha : ∀ c ∈ (reserved "app").generator.project.toList, c.toNat < 128 := by
      simp [reserved, Generator.withProject]
    simp only [List.any_eq_true, decide_eq_true_eq] at hl
    exact (Generator.invalidIdentifier_iff hp ho hc hf hu ha).left.mpr (.inr ⟨rfl, hl⟩)

end Sample
end EnvConfig
