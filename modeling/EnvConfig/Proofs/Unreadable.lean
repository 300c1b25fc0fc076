import EnvConfig.Proofs.Evaluation
import EnvConfig.Proofs.Items
import EnvConfig.Proofs.PlainCode

-- A module cannot be read if the prefix has a carriage return in it, as the loader's documentation shows the
-- prefix.

namespace EnvConfig

open Source Text Layout Layout.Document

namespace Text

theorem not_mem_toDigits (n : Nat) : '/' ∉ Nat.toDigits 16 n := by
  have hd : ∀ d < 16, '/' ≠ Nat.digitChar d := by decide
  induction n using Nat.strongRecOn
  case ind n hi =>
    rw [Nat.toDigits_eq_if (by decide)]
    split
    case isTrue h => simp [hd n h]
    case isFalse h =>
      have hr := hd (n % 16) (Nat.mod_lt n (by decide))
      simp [hi (n / 16) (by omega), hr]

-- A literal has no slash that its text does not have.
theorem not_mem_quote {s : List Char} (h : '/' ∉ s) : '/' ∉ (quote s).toList := by
  have he : '/' ∉ escape s := by
    induction s
    case nil => exact List.not_mem_nil
    case cons c s hi =>
      have ⟨hc, h⟩ := not_or.mp (List.mem_cons.not.mp h)
      have hs : '/' ∉ escapeChar c := by
        unfold escapeChar
        split
        case h_6 =>
          split
          case isTrue => simpa using hc
          case isFalse => simp [unicodeEscape, not_mem_toDigits]
        all_goals decide
      rw [escape]
      split
      case isFalse => simp [hs, hi h]
      case isTrue => dsimp only; split <;> simp [hi h]
  simpa [quote] using he

end Text

-- Options without a slash in what is shown of them.
structure ModuleOptions.Slashless (o : ModuleOptions) : Prop where
  path : ∀ ts ∈ o.typesPath, '/' ∉ (Token.denseTexts ts).toList
  gate : ∀ ts ∈ o.gate, '/' ∉ (Token.denseTexts ts).toList

namespace Naming.IsSolid

variable {name : String}

theorem slash (h : IsSolid name) : '/' ∉ name.toList :=
  fun hm => (h _ hm).slash rfl

theorem line (h : IsSolid name) : '\n' ∉ name.toList :=
  fun hm => absurd (h _ hm).space (by decide)

theorem text (i : Ident) : IsSolid i.text := by
  unfold Ident.text
  split
  case isTrue => exact .append (.of_all (by decide)) (.ident i)
  case isFalse => exact .ident i

end Naming.IsSolid

theorem Primitive.isSolid_name (p : Primitive) : Naming.IsSolid p.name := by
  cases p <;> exact .of_all (by decide)

theorem Catalog.isSolid_name_of_flatten {c : Catalog} {root project : String} {f : Flattened} {l : Leaf}
    (h : c.flatten root project = .ok f) (hl : l ∈ f.leaves) : Naming.IsSolid l.name := by
  obtain ⟨_, _, _, ht, rfl⟩ := flatten_eq_ok.mp h
  obtain ⟨names, _, hn⟩ := (Expansion.of_expand ht).segments_eq hl
  refine .intercalate (.of_all (by decide)) ?_
  simp only [hn, FieldPath.segments_root, List.nil_append, List.forall_mem_map]
  exact fun i _ => .ident i

namespace Module

variable {project : String} {f : Flattened} {o : ModuleOptions} {m : Module}

-- The items of a record's module up to its loader, without their gate.
def front (f : Flattened) (typesPath : Option (List Token)) : List ModuleItem :=
  typesPath.toList.map (.imports · f.layout.typeNames) ++
    (f.leaves.map fun l => .constant (keyConstant l l.names)) ++ [
    .sentinels (" A single variable problem reported by " ++ link f.names.loader ++ ".")
      ((variantsFor f.leaves).map (·.1)),
    .sentinelMethods (armsFor f.leaves),
    .sentinelDisplay,
    .sentinelError,
    .loadError (" Every variable problem found by one call to " ++ link f.names.loader ++ "."),
    .loadErrorMethods,
    .loadErrorDisplay,
    .loadErrorError]

theorem items_eq_front (hl : ∀ l ∈ f.leaves, l.Nameable) (h : build project f o = .ok m) :
    m.items = (front f o.typesPath ++ ModuleItem.loader (loaderFor project f f.names) ::
      (helpersFor f.leaves).map ModuleItem.helper).map (⟨o.gate, ·⟩) := by
  rw [eq_of_build hl h, itemsFor_names]
  simp [Flattened.importItems, front, Function.comp_def]

-- The types by which problems are reported.
def typesFor (f : Flattened) : ReportTypes :=
  ⟨Naming.sentinelsName f.layout.type.name, Naming.loadErrorName f.layout.type.name⟩

section

variable {l : Leaf} (hl : l.Nameable)
include hl

theorem isPlain_keyConstant (hn : Naming.IsSolid l.name) :
    IsPlain (constantCode (keyConstant l l.names)) := by
  have hp := l.primitive.isSolid_name
  refine isPlain_constantCode ⟨?slash, ?line, ?solid⟩ hl.key.constantName.slash (not_mem_quote hl.key.slash)
  case slash => simp [keyConstant, inTicks, hn.slash, hp.slash]
  case line => simp [keyConstant, inTicks, hn.line, hp.line]
  case solid => simp [keyConstant]

theorem isRemark_leafVariants : ∀ v ∈ leafVariants l l.names,
    IsRemark v.1.doc ∧ '/' ∉ v.1.name.toList ∧ '/' ∉ v.2.1.toList := by
  have hp := l.primitive.isSolid_name
  intro v hv
  cases List.mem_cons.mp hv
  case inl hv =>
    subst hv
    refine ⟨⟨?_, ?_, ?_⟩, hl.missing.slash, hl.key.constantName.slash⟩ <;>
      simp [missingVariant, inTicks, hl.key.slash, hl.key.line]
  case inr hv =>
    obtain ⟨name, hn, rfl⟩ := List.mem_map.mp hv
    refine ⟨⟨?_, ?_, ?_⟩, (hl.invalid name (Option.mem_toList.mp hn)).slash, hl.key.constantName.slash⟩ <;>
      simp [invalidVariant, inTicks, hl.key.slash, hl.key.line, hp.slash, hp.line]

end

theorem isPlain_itemCode_front (hl : ∀ l ∈ f.leaves, l.Nameable) (hn : ∀ l ∈ f.leaves, Naming.IsSolid l.name)
    (ho : ∀ ts ∈ o.typesPath, '/' ∉ (Token.denseTexts ts).toList) :
    ∀ item ∈ front f o.typesPath, IsPlain (itemCode (typesFor f) item) := by
  have hr : Naming.IsSolid f.layout.type.name := .ident _
  have hs : '/' ∉ (typesFor f).sentinels.toList := (hr.append (.of_all (by decide))).slash
  have he : '/' ∉ (typesFor f).loadError.toList := (hr.append (.of_all (by decide))).slash
  have hv : ∀ v ∈ variantsFor f.leaves, IsRemark v.1.doc ∧ '/' ∉ v.1.name.toList ∧ '/' ∉ v.2.1.toList := by
    intro v hv
    obtain ⟨l, hm, hv⟩ := List.mem_flatMap.mp hv
    exact isRemark_leafVariants (hl l hm) v hv
  have hd : Naming.IsSolid f.names.loader := hr.loaderName
  unfold front
  simp only [List.forall_mem_append]
  refine ⟨⟨?imports, ?constants⟩, ?rest⟩
  case imports =>
    refine List.forall_mem_map.mpr fun path hp => isPlain_importsCode (ho path (Option.mem_toList.mp hp)) ?_
    intro name hn
    obtain ⟨r, _, rfl⟩ := Record.mem_typeNames.mp hn
    exact (Naming.IsSolid.ident r.type).slash
  case constants => exact List.forall_mem_map.mpr fun l hm => isPlain_keyConstant (hl l hm) (hn l hm)
  case rest =>
    simp only [List.mem_cons, List.not_mem_nil, or_false, forall_eq_or_imp, forall_eq]
    refine ⟨?sentinels, ?methods, ?display, isPlain_errorCode hs, ?loadError,
      isPlain_loadErrorMethodsCode hs he, isPlain_loadErrorDisplayCode he, isPlain_errorCode he⟩
    case sentinels =>
      refine isPlain_sentinelsCode hs ⟨?_, ?_, ?_⟩ ?_
      case refine_4 => exact List.forall_mem_map.mpr fun v hm => ⟨(hv v hm).left, (hv v hm).right.left⟩
      all_goals simp [link, hd.slash, hd.line]
    case methods =>
      refine isPlain_sentinelMethodsCode hs ?_ ?_ <;> refine List.forall_mem_map.mpr fun v hm => ?_
      case refine_1 => exact (hv v hm).right
      case refine_2 => exact (hv v hm).right.left
    case display => exact isPlain_displayCode hs (by simp [isPlain_fixed])
    case loadError =>
      refine isPlain_loadErrorCode hs he ⟨?_, ?_, ?_⟩
      all_goals simp [link, hd.slash, hd.line]

theorem trimSpaces_concat {s : List Char} {c : Char} (hc : c ≠ ' ') : trimSpaces (s ++ [c]) = s ++ [c] := by
  simp [trimSpaces, hc]

theorem barring_empty {d : Document} (h : Barring d) : Barring (docComment "" ++ d) := by
  have he : docComment "" = comment "///" ++ line := by decide
  rw [he]
  exact .empty (by decide) (by simp) h

-- Each item ends with a line.
theorem exists_append_line {α : Type} {l : List α} (h : l ≠ []) (code : α → Document) :
    ∃ d, l.flatMap (fun a => code a ++ line) = d ++ line := by
  obtain ⟨as, a, rfl⟩ := (List.eq_nil_or_concat l).resolve_left h
  exact ⟨as.flatMap (fun a => code a ++ line) ++ code a, by simp⟩

section

variable {x y : String} (hq : '"' ∉ x.toList) (hx : '\n' ∉ x.toList) (hy : '\n' ∉ y.toList)
include hq hx hy

-- The remark on a prefix with a carriage return in it.
theorem barring_remark {d : Document} :
    Barring (docComment (" Every variable starts with " ++ inTicks (x ++ "\r" ++ y ++ "_") ++ ".") ++ d) := by
  have hs : (" Every variable starts with " ++ inTicks (x ++ "\r" ++ y ++ "_") ++ ".").toList =
      (" Every variable starts with `".toList ++ x.toList) ++ '\r' :: (y.toList ++ "_`.".toList) := by
    simp [inTicks]
  have ht : trimSpaces (" Every variable starts with " ++ inTicks (x ++ "\r" ++ y ++ "_") ++ ".").toList =
      (" Every variable starts with `".toList ++ x.toList) ++ '\r' :: (y.toList ++ "_`.".toList) := by
    rw [← hs, String.toList_append]
    exact trimSpaces_concat (by decide)
  rw [docComment_eq (by simp [hs, hx, hy]), ht]
  refine .comment (x := " Every variable starts with `".toList ++ x.toList) (y := y.toList ++ "_`.".toList)
    ?_ ?_ ?_ ?_ ?_ fun hh => ?_
  case refine_6 => simpa [hy] using List.mem_of_head? hh
  all_goals simp [hq, hx]

theorem barring_loaderCode {n : ModuleNames} {t : ReportTypes} {l : Loader} {d : Document}
    (hl : l.docs = loaderDocs (x ++ "\r" ++ y) f n) : Barring (loaderCode t l ++ d) := by
  have hr : Naming.IsSolid f.layout.type.text := .text _
  have hf : IsRemark (" Loads " ++ link f.layout.type.text ++ " from the process environment.") := by
    constructor <;> simp [link, hr.slash, hr.line]
  have hv : IsRemark " Variables are read on every call and all of them are checked before" := by
    constructor <;> simp
  have he : IsRemark " returning, so a single error reports every problem at once." := by
    constructor <;> simp
  simp only [loaderCode, hl, docComments, loaderDocs, List.cons_append, List.nil_append, List.flatMap_cons,
    List.append_assoc]
  exact .append hf.isPlain <| barring_empty <| .append hv.isPlain <| .append he.isPlain <|
    barring_remark hq hx hy

theorem barring_code (hl : ∀ l ∈ f.leaves, l.Nameable) (hn : ∀ l ∈ f.leaves, Naming.IsSolid l.name)
    (ho : o.Slashless) (h : build (x ++ "\r" ++ y) f o = .ok m) : Barring m.code := by
  have hg : IsPlain (gateCode o.gate) := isPlain_gateCode ho.gate
  have hi := items_eq_front hl h
  have ht : m.types = typesFor f := by rw [eq_of_build hl h, typesFor]
  have hf : IsPlain ((front f o.typesPath).flatMap fun item =>
      gateCode o.gate ++ itemCode m.types item ++ line) := .flatMap fun item hm => by
    simp [hg, ht, isPlain_itemCode_front hl hn ho.path item hm]
  have hb : Barring (m.items.flatMap fun i => gateCode i.gate ++ itemCode m.types i.item ++ line) := by
    rw [hi, List.flatMap_map, List.flatMap_append, List.flatMap_cons]
    refine .append hf ?_
    simp only [List.append_assoc]
    exact .append hg <| barring_loaderCode hq hx hy rfl
  have hn : m.items ≠ [] := by simp [hi]
  obtain ⟨d, hd⟩ := exists_append_line hn fun i => gateCode i.gate ++ itemCode m.types i.item
  rw [code, hd]
  exact (hd ▸ hb).together

end

end Module

theorem Module.toList_text (m : Module) : m.text.toList = "// ".toList ++
    (("Code generated by envgen from " ++ inTicks m.root ++ "; DO NOT EDIT.").toList ++
      '\n' :: '\n' :: m.code.print.toList) := by
  have hc : "// Code generated by envgen from ".toList =
      "// ".toList ++ "Code generated by envgen from ".toList := by decide
  have hd : "; DO NOT EDIT.\n\n".toList = "; DO NOT EDIT.".toList ++ ['\n', '\n'] := by decide
  unfold text header
  simp only [String.toList_append, hc, hd, List.append_assoc, List.cons_append, List.nil_append]

namespace Generator

variable {g : Generator} {name source : String} {out : Generated} {o : ModuleOptions} {x y : String}

-- With a carriage return in the prefix, no module that is generated can be read. The text of a comment is all
-- that the prefix is in without being quoted or spelled out, and `check` leaves the comments out.
theorem unreadable_of_generate (h : g.generate name source = .ok out) (hp : g.project? = .ok (x ++ "\r" ++ y))
    (hq : '"' ∉ x.toList) (hx : '\n' ∉ x.toList) (hy : '\n' ∉ y.toList) (ho : g.options = .ok o)
    (hs : o.Slashless) (file : String) : ∃ e, catalog file out.text = .error e := by
  obtain ⟨s⟩ := generate_eq_ok.mp h
  obtain rfl : o = s.options := Except.ok.inj (ho.symm.trans s.given)
  have hr : s.project = x ++ "\r" ++ y := Except.ok.inj (s.prefixed.symm.trans hp)
  have hl := Catalog.nameable_of_flatten s.expanded
  have hb := s.built
  rw [hr] at hb
  have hc : Barring s.module.code :=
    Module.barring_code hq hx hy hl (fun _ => Catalog.isSolid_name_of_flatten s.expanded) hs hb
  have hn : Naming.IsSolid s.module.root := by
    rw [Module.eq_of_build hl hb]
    exact .ident _
  obtain ⟨e, he⟩ : ∃ e, readFile s.module.text = .error e := by
    refine readFile_eq_error ?_ (.char (by decide) hc.print) (Module.toList_text _)
    simp [Module.inTicks, hn.line]
  exact ⟨_, by rw [s.result, catalog, Generated.text, he]⟩

end Generator

theorem Sample.unruly_unreadable :
    ∃ out, unruly.generate = .ok out ∧ ∃ e, Generator.catalog "loader" out.text = .error e := by
  obtain ⟨out, h, _⟩ := unruly_generates
  obtain ⟨o, ho, hs⟩ := exists_of_any (x := unruly.generator.options)
    (p := fun o => [o.typesPath, o.gate].all (·.all fun ts => !(Token.denseTexts ts).toList.contains '/'))
    (by decide)
  have hp : unruly.generator.project? = .ok ("A" ++ "\r" ++ "B") := by decide
  have hs : o.Slashless := by
    constructor <;> simp_all [Option.all_eq_true]
  have hq : '"' ∉ "A".toList := by decide
  have hx : '\n' ∉ "A".toList := by decide
  have hy : '\n' ∉ "B".toList := by decide
  exact ⟨out, h, Generator.unreadable_of_generate h hp hq hx hy ho hs "loader"⟩

end EnvConfig
