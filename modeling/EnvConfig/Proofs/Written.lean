import EnvConfig.Program.Loader
import EnvConfig.Proofs.Letters

-- The programs of a module's loader and of its helpers are what the module's code says, but for spaces.

namespace EnvConfig

open Layout Layout.Document Layout.Code

namespace Program

variable {e : Expr} {wide type : Primitive}

attribute [local simp] Expr.text Block.text

theorem solid_inBraces {text : String} : solid (inBraces text) = '\x7b' :: solid text ++ ['\x7d'] := by
  simp [inBraces, solid]

theorem solid_genericText {name argument : String} :
    solid (genericText name argument) = solid name ++ '<' :: solid argument ++ ['>'] := by
  simp [genericText, solid]

theorem solid_callText {function argument : String} :
    solid (callText function argument) = solid function ++ '(' :: solid argument ++ [')'] := by
  simp [callText]

theorem solid_lines {lines : List String} : solid (" ".intercalate lines) = lines.flatMap solid := by
  rw [solid_intercalate, solid_space]
  induction lines
  case nil => rfl
  case cons a lines hi => cases lines <;> simp_all [List.intercalate_cons_cons]

theorem solid_tupleText {items : List String} {ds : List Document} (h : items.map solid = ds.map letters) :
    solid (tupleText items) = letters (tuple ds) := by
  have hl : items.length = ds.length := by simpa using congrArg List.length h
  have hc : solid ",)" = [',', ')'] := by decide
  rw [letters_tuple]
  unfold tupleText
  split
  case h_1 item =>
    obtain ⟨d, rfl⟩ := List.length_eq_one_iff.mp hl.symm
    have hd : solid item = letters d := List.head_eq_of_cons_eq h
    simp [hd, hc]
  case h_2 hn =>
    have hl : ds.length ≠ 1 := fun h => by
      obtain ⟨item, rfl⟩ := List.length_eq_one_iff.mp (hl.trans h)
      exact hn item rfl
    simp [hl, solid_intercalate, h]

theorem solid_apply (he : e.level = .primary) {c : Combinator} {x : String} {b : Block} :
    solid (Expr.apply c e x b).text =
      solid e.text ++ solid ("." ++ callText c.name (closureText x (b.inline b.text))) := by
  simp [he, operand, methodText, callText]

theorem solid_narrowed (he : e.level = .primary) :
    solid (narrowed wide type e).text = solid e.text ++ (Module.narrowed wide type).letters := by
  rw [narrowed, solid_apply he]
  simp [Block.inline, Expr.level, Unary.level, Unary.operandLevel, Unary.text, operand, Level.rank, methodText,
    callText, genericText, closureText, Combinator.name, Module.narrowed, methodBlock, Method.letters, solid]

theorem solid_cast (he : e.level = .primary) :
    solid (cast type e).text = solid e.text ++ (Module.valueCode.cast type).letters := by
  rw [cast, solid_apply he]
  simp [Block.inline, Expr.level, Unary.operandLevel, Unary.text, operand, Level.rank, callText, closureText,
    Combinator.name, Module.valueCode.cast, methodBlock, Method.letters, solid]

theorem solid_withoutPlus (he : e.level = .primary) :
    solid (withoutPlus e).text = solid e.text ++ Module.withoutSign.letters :=
  (solid_apply he).trans <| congrArg (solid e.text ++ ·) (by decide)

theorem text_letIn {b : Binder} {rest : Block} :
    (Block.letIn b e rest).text = "let " ++ b.text ++ " = " ++ e.text ++ "; " ++ rest.text :=
  rfl

theorem inline_letIn {b : Binder} {rest : Block} {text : String} :
    (Block.letIn b e rest).inline text = inBraces text :=
  rfl

theorem solid_notOverflown (he : e.level = .primary) :
    solid (notOverflown e).text = solid e.text ++ Module.notOverflown.letters := by
  have hs : "let " ++ (Binder.name false "spelled" none).text ++ " = " ++
      (Expr.unary (.trimStart (.any ['+', '-'])) "raw").text ++ "; " =
      "let spelled = raw.trim_start_matches(['+', '-']);" ++ " " := by decide
  have hf : (Block.value isFiniteOrNamed).text =
      "!v.is_infinite() || spelled.eq_ignore_ascii_case(\"inf\")" ++ " " ++
        "|| spelled.eq_ignore_ascii_case(\"infinity\")" := by decide
  rw [notOverflown, solid_apply he, inline_letIn, text_letIn, hs, hf, Module.notOverflown, methodBlock,
    Method.letters]
  generalize "let spelled = raw.trim_start_matches(['+', '-']);" = spelled
  generalize "!v.is_infinite() || spelled.eq_ignore_ascii_case(\"inf\")" = short
  generalize "|| spelled.eq_ignore_ascii_case(\"infinity\")" = long
  simp [callText, closureText, inBraces, Combinator.name, solid]

theorem solid_readNumber :
    solid (readNumber wide).text = solid "raw" ++ (Module.readNumber wide).flatMap Method.letters := by
  simp [readNumber, Unary.text, Expr.level, Unary.level, Unary.operandLevel, operand, methodText, callText,
    Module.readNumber, method, Method.letters, solid]

@[simp]
theorem level_readNumber : (readNumber wide).level = .primary := by
  simp [readNumber, Expr.level, Unary.level]

@[simp]
theorem level_withoutPlus : (withoutPlus e).level = .primary := by
  simp [withoutPlus, Expr.level]

@[simp]
theorem level_cast : (cast type e).level = .primary := by
  simp [cast, Expr.level]

theorem solid_valueOf {p : Parsing} : solid (valueOf p).text = letters (Module.valueCode p) := by
  obtain ⟨parse, bits, narrow⟩ := p
  cases parse
  case raw => exact (by decide : solid "Some(raw.into_owned())" = letters (text "Some(raw.into_owned())"))
  case bool => exact (by decide : solid "parse_bool(&raw)" = letters (call (text "parse_bool") [text "&raw"]))
  case duration =>
    exact (by decide : solid "parse_duration(&raw)" = letters (call (text "parse_duration") [text "&raw"]))
  case word | signed =>
    cases narrow <;> simp [valueOf, Module.valueCode, solid_readNumber, solid_narrowed]
  case unsigned =>
    cases narrow <;> simp [valueOf, Module.valueCode, solid_readNumber, solid_narrowed, solid_withoutPlus]
  case float =>
    cases narrow <;> simp [valueOf, Module.valueCode, solid_readNumber, solid_cast, solid_notOverflown]

-- A block that is written as some statements, and then as another block.
def Block.Says (b : Block) (ds : List Document) (rest : Block) : Prop :=
  solid b.text = ds.flatMap letters ++ solid rest.text

namespace Block.Says

variable {b body rest rest' : Block} {d : Document} {ds ds' : List Document} {statement head code x : String}
  {arms : List String}

theorem nil : b.Says [] b :=
  rfl

theorem append (h : b.Says ds rest) (h' : rest.Says ds' rest') : b.Says (ds ++ ds') rest' := by
  rw [Says, h, h', List.flatMap_append, List.append_assoc]

theorem cons (hb : b.text = statement ++ rest.text) (hd : solid statement = letters d) (h : rest.Says ds rest') :
    b.Says (d :: ds) rest' := by
  rw [Says, hb, solid_append, hd, h, List.flatMap_cons, List.append_assoc]

theorem value (h : solid e.text = letters d) : (Block.value e).Says [d] .done := by
  simpa [Says] using h

theorem fixedValue (h : e.text = code) : (Block.value e).Says [Module.fixed code] .done :=
  .value (by rw [h, Module.letters_fixed])

theorem matchValue (h : e.text = head ++ " " ++ inBraces (" ".intercalate arms)) :
    (Block.value e).Says [Module.fixedBraced head arms] .done :=
  .value (by rw [h, Module.letters_fixedBraced]; simp [solid_inBraces, solid_lines])

theorem inArm (h : b.Says ds .done) (hb : b.inArm b.text = inBraces b.text) :
    solid (b.inArm b.text) = '\x7b' :: ds.flatMap letters ++ ['\x7d'] := by
  have h : solid b.text = ds.flatMap letters := h.trans (List.append_nil _)
  rw [hb, solid_inBraces, h]

theorem leave (h : "return " ++ e.text ++ ";" = code) : (Block.leave e).Says [Module.fixed code] .done := by
  simp [Says, ← h]

theorem stop : Block.stop.Says [Module.fixed "break;"] .done :=
  rfl

theorem fixed (hb : b.text = statement ++ rest.text) (hs : statement = code ++ " ") (h : rest.Says ds rest') :
    b.Says (Module.fixed code :: ds) rest' :=
  .cons hb (by simp [hs]) h

-- The arms of a comparison are fixed as well.
theorem fixedMatch (hb : b.text = statement ++ rest.text)
    (hs : statement = head ++ " " ++ inBraces (" ".intercalate arms) ++ "; ") (h : rest.Says ds rest') :
    b.Says ((Module.fixedBraced head arms ++ Document.text ";") :: ds) rest' := by
  refine .cons hb ?_ h
  simp [hs, solid_inBraces, solid_lines]

theorem braced (hb : b.text = head ++ " " ++ inBraces body.text ++ " " ++ rest.text)
    (hd : body.Says ds .done) (h : rest.Says ds' rest') : b.Says (Module.braced head ds :: ds') rest' := by
  have hd : solid body.text = ds.flatMap letters := hd.trans (List.append_nil _)
  exact .cons hb (by simp [solid_inBraces, hd]) h

theorem onlyIf (hc : "if " ++ e.text = head) (hb : body.Says ds .done) (h : rest.Says ds' rest') :
    (Block.onlyIf e body rest).Says (Module.braced head ds :: ds') rest' :=
  .braced (by rw [← hc]; rfl) hb h

theorem whileTrue (hc : "while " ++ e.text = head) (hb : body.Says ds .done) (h : rest.Says ds' rest') :
    (Block.whileTrue e body rest).Says (Module.braced head ds :: ds') rest' :=
  .braced (by rw [← hc]; rfl) hb h

theorem forEach (hc : "for " ++ x ++ " in " ++ e.text = head) (hb : body.Says ds .done) (h : rest.Says ds' rest') :
    (Block.forEach x e body rest).Says (Module.braced head ds :: ds') rest' :=
  .braced (by rw [← hc]; rfl) hb h

end Block.Says

open Block.Says

section

variable {rest : Block}

theorem says_numberThen : (numberThen rest).Says Module.componentNumber rest :=
  .fixed rfl (by decide) <|
  .fixedMatch rfl (by decide) <|
  .onlyIf (by decide) (.leave (by decide)) .nil

theorem says_addWhole : addWhole.Says (["let whole: u128 = whole.parse().ok()?;",
    "total = total.checked_add(whole.checked_mul(scale)?)?;"].map Module.fixed) .done :=
  .fixed rfl (by decide) <| .fixed rfl (by decide) .nil

-- The search for the end of a unit is written on several lines.
theorem says_unitLength : (Block.letIn (.name false "unit_len" none)
    (lengthUpTo (.either (.is '.') .isDigit) "tail") rest).Says (Module.componentUnit.take 3) rest := by
  let find := ".find(|c: char| c == '.' || c.is_ascii_digit())"
  let otherwise := ".unwrap_or(tail.len());"
  have hi : solid "    " = [] := by decide
  have hf : "    .find(|c: char| c == '.' || c.is_ascii_digit())" = "    " ++ find := by decide
  have ho : "    .unwrap_or(tail.len());" = "    " ++ otherwise := by decide
  have hs : "let unit_len = " ++ (lengthUpTo (.either (.is '.') .isDigit) "tail").text ++ "; " =
      "let unit_len = tail" ++ find ++ otherwise ++ " " := by decide
  calc
    _ = solid ("let unit_len = " ++ (lengthUpTo (.either (.is '.') .isDigit) "tail").text ++ "; " ++ rest.text) :=
      congrArg solid rfl
    _ = _ := by rw [hs]; simp [Module.componentUnit, hf, ho, hi]

set_option maxRecDepth 2000 in
theorem says_unitThen : (unitThen rest).Says Module.componentUnit rest :=
  .append says_unitLength <| .fixed rfl (by decide) <| .fixedMatch rfl (by decide) .nil

theorem says_sumThen : (sumThen rest).Says Module.componentSum rest :=
  .onlyIf (by decide) says_addWhole <|
  .fixed rfl (by decide) <|
  .fixed rfl (by decide) <|
  .forEach (by decide)
    (.onlyIf (by decide) .stop <| .fixed rfl (by decide) <| .fixed rfl (by decide) .nil) <|
  .fixed rfl (by decide) <|
  .fixed rfl (by decide) .nil

end

theorem solid_function {head : String} {b : Block} {ds : List Document} (h : b.Says ds .done) :
    solid (Function.mk head b).text = letters (Module.braced head ds) := by
  have h : solid b.text = ds.flatMap letters := h.trans (List.append_nil _)
  simp [Function.text, solid_inBraces, h]

set_option maxRecDepth 2000 in
theorem solid_boolFunction : solid boolFunction.text = letters Module.boolHelper :=
  solid_function <| .matchValue (by decide)

theorem solid_durationFunction : solid durationFunction.text = letters Module.durationHelper :=
  solid_function <|
  .fixed rfl (by decide) <|
  .fixed rfl (by decide) <|
  .onlyIf (by decide) (.leave (by decide)) <|
  .onlyIf (by decide) (.leave (by decide)) <|
  .fixed rfl (by decide) <|
  .fixed rfl (by decide) <|
  .whileTrue (by decide) (.append (.append says_numberThen says_unitThen) says_sumThen) <|
  .onlyIf (by decide) (.leave (by decide)) <|
  .fixed rfl (by decide) <|
  .fixedValue (by decide)

section

variable {r : Record String}

theorem solid_fieldTexts {fields : Fields String} :
    (fieldTexts fields).map solid = (Module.literalFields fields).map letters := by
  induction fields
  case nil => rfl
  case leaf hi => simp [fieldTexts, Module.literalFields, hi]
  case record hi hi' =>
    simp [fieldTexts, Module.literalFields, letters_literal, solid_inBraces, solid_intercalate, hi, hi']

theorem solid_recordText : solid (recordText r) = letters (Module.literalCode r) := by
  simp [recordText, Module.literalCode, letters_literal, solid_inBraces, solid_intercalate, solid_fieldTexts]

end

section

variable {sentinels : String} {t : ReportTypes} {r : VariableRead} {l : Loader} {rest : Block}

theorem solid_optionText {type : Primitive} : solid (optionText type) = letters (Module.optionOf type) := by
  simp [optionText, solid_genericText, Module.optionOf]

theorem says_listThen {name type : String} {isMutable : Bool} :
    (listThen name isMutable type rest).Says [Module.listCode name isMutable type] rest := by
  have hn : Literal.emptyList.text = "::std::vec::Vec::new()" := by decide
  refine .cons text_letIn ?_ .nil
  simp [Binder.text, solid_genericText, hn, Module.listCode, Module.vecOf]

theorem says_push {list type variant : String} :
    (Block.push list type variant rest).Says [Module.pushCode list type variant] rest := by
  have hp : solid ".push(" = solid ".push" ++ ['('] := by decide
  have hc : solid "); " = [')', ';'] := by decide
  simp [Block.Says, Module.pushCode, method, Method.letters, hp, hc]

-- What is done with a text that can be invalid.
theorem says_interpretation {i : Interpretation} (hi : r.interpretation = some i) :
    (presentBlock sentinels r).Says [Module.fixed "let raw = raw.to_string_lossy();",
      letStatement (text "parsed: " ++ Module.optionOf r.type) (Module.valueCode i.parsing),
      Module.braced "if parsed.is_none()" [Module.pushCode "invalid" sentinels i.invalid],
      Module.fixed "parsed"] .done := by
  have hp : solid "parsed: " = solid "parsed" ++ [':'] := by decide
  simp only [presentBlock, hi]
  refine .fixed rfl (by decide) <| .cons text_letIn ?_ <| .onlyIf (by decide) says_push <| .fixedValue rfl
  simp [Binder.text, solid_optionText, solid_valueOf, hp]

theorem letters_presentArm : letters (Module.presentArm sentinels r) =
    "Some(raw)=>".toList ++ solid ((presentBlock sentinels r).inArm (presentBlock sentinels r).text) := by
  have hp : letters (call (text "Some") [text "raw"]) = "Some(raw)".toList := by decide
  cases hi : r.interpretation
  case none =>
    have ht : (Expr.unary .some (.unary .owned (.unary .lossy "raw"))).text =
        "Some(raw.to_string_lossy().into_owned())" := by decide
    have hc : solid "," = [','] := by decide
    simp only [Module.presentArm, presentBlock, hi, Block.inArm, Block.text, ht, solid_append, letters_arm,
      Module.letters_fixed, hp, hc]
    simp
  case some i =>
    have hb : (presentBlock sentinels r).inArm (presentBlock sentinels r).text =
        inBraces (presentBlock sentinels r).text := by
      simp only [presentBlock, hi]
      rfl
    rw [(says_interpretation hi).inArm hb]
    simp [Module.presentArm, hi, hp]

theorem solid_onOption {k : String} {present absent : Block} :
    solid (Expr.onOption (.variable k) "raw" present absent).text =
      "match".toList ++ letters (call (text "::std::env::var_os") [text k]) ++ '\x7b' ::
        ("Some(raw)=>".toList ++ solid (present.inArm present.text) ++
          ("None=>".toList ++ solid (absent.inArm absent.text))) ++ ['\x7d'] := by
  have hm : solid "match " = "match".toList := by decide
  have hp : solid "Some(" ++ (solid "raw" ++ solid ") => ") = "Some(raw)=>".toList := by decide
  have hn : solid " None => " = "None=>".toList := by decide
  simp only [Expr.text, callText, solid_append, solid_inBraces, hm, hn, ← hp]
  simp

theorem letters_absentArm :
    letters (armBlock (text "None") [Module.pushCode "missing" sentinels r.missing, Module.fixed "None"]) =
      "None=>".toList ++ solid ((absentBlock sentinels r).inArm (absentBlock sentinels r).text) := by
  have hb : (absentBlock sentinels r).Says
      [Module.pushCode "missing" sentinels r.missing, Module.fixed "None"] .done :=
    says_push.append (.fixedValue (by decide))
  have hn : solid "None" = "None".toList := by decide
  rw [hb.inArm rfl, letters_armBlock, letters_text, hn]
  simp

theorem says_readThen : (readThen sentinels r rest).Says [Module.readCode sentinels r] rest := by
  refine .cons text_letIn ?_ .nil
  simp only [Module.readCode, letters_letStatement, letters_matchOn, List.flatMap_cons, List.flatMap_nil,
    letters_presentArm, letters_absentArm, solid_append, solid_onOption]
  simp [Binder.text, solid_optionText]

theorem says_successThen : (successThen l rest).Says [Module.successCode l] rest := by
  have hp : ((l.reads.map (·.binding)).map (callText "Some")).map solid =
      ((l.reads.map (·.binding)).map fun b => call (text "Some") [text b]).map letters := by
    simp [solid_callText]
  have hv : (l.reads.map (·.binding)).map solid = ((l.reads.map (·.binding)).map text).map letters := by
    simp
  have hi : solid "if " = ['i', 'f'] := by decide
  have hr : solid "return " = "return".toList := by decide
  simp only [Block.Says, successThen, Block.text, presentText, Expr.text, solid_callText, solid_append,
    solid_inBraces, solid_tupleText hp, solid_tupleText hv, solid_recordText]
  simp [Module.successCode, Module.presentPattern, Module.presentOptions, hi, hr]

theorem says_reads {rs : List VariableRead} :
    (rs.foldr (readThen sentinels) rest).Says (rs.map (Module.readCode sentinels)) rest := by
  induction rs
  case nil => exact .nil
  case cons r rs hi =>
    rw [List.foldr_cons, List.map_cons]
    exact says_readThen.append hi

theorem says_loaderBody : (loaderBody t l).Says (Module.loaderStatements t l) .done := by
  cases hr : l.reads
  case nil =>
    simp only [loaderBody, Module.loaderStatements, hr]
    exact .value (by simp [solid_callText, solid_recordText])
  case cons r rs =>
    have hm : solid "missing, invalid" = solid "missing" ++ ',' :: solid "invalid" := by decide
    have he : solid (Expr.failure t.loadError).text =
        letters (statement (callBlock "Err" (literal t.loadError [text "missing", text "invalid"]))) := by
      simp [solid_callText, solid_inBraces, letters_literal, hm]
    simp only [loaderBody, Module.loaderStatements, hr]
    exact .append (.append (says_listThen.append says_listThen) says_reads) (says_successThen.append (.value he))

theorem solid_loaderFunction : solid (loaderFunction t l).text = letters (Module.loaderCode t l) := by
  have hb : solid (loaderBody t l).text = (Module.loaderStatements t l).flatMap letters :=
    says_loaderBody.trans (List.append_nil _)
  have ha : solid "() -> " = '(' :: ")->".toList := by decide
  simp [loaderFunction, Function.text, solid_inBraces, solid_genericText, hb, ha, Module.loaderCode,
    Module.letters_docComments, Module.letters_function]

-- An item that is run is written as its program is, but for layout and comments.
theorem dense_itemCode {item : ModuleItem} {f : Function} (h : itemFunction? t item = some f) :
    (Module.itemCode t item).dense.toList = solid f.text := by
  rw [toList_dense]
  cases item <;> cases h
  case loader => exact solid_loaderFunction.symm
  case helper k =>
    cases k
    case bool => exact solid_boolFunction.symm
    case duration => exact solid_durationFunction.symm

end

end Program

end EnvConfig
