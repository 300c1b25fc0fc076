import EnvConfig.Module.Basic
import EnvConfig.Module.Expression
import EnvConfig.Text.StringLiteral

-- The code of a module's items.

namespace EnvConfig.Module

open Layout Layout.Code Layout.Document Source

def trimSpaces (s : List Char) : List Char :=
  (s.reverse.dropWhile (· == ' ')).reverse

-- Every line but the last one without the spaces at its end.
def trimLines (s : List Char) : List Char :=
  let ls := s.splitOn '\n'
  ['\n'].intercalate (ls.dropLast.map trimSpaces ++ ls.getLast?.toList)

-- Whether all comments in a text are closed, so that it can stand in a comment itself.
def closesComments : Nat → List Char → Bool
  | d, '/' :: '*' :: cs => closesComments (d + 1) cs
  | 0, '*' :: '/' :: _  => false
  | d, '*' :: '/' :: cs => closesComments (d - 1) cs
  | d, _ :: cs          => closesComments d cs
  | d, []               => d == 0

-- A text that documents the item behind it. None starts or ends with a slash.
def docComment (doc : String) : Document :=
  let s := doc.toList
  if !s.contains '\n' then comment ("///" ++ String.ofList (trimSpaces s)) ++ line
  else if closesComments 0 s then comment ("/**" ++ String.ofList (trimLines s) ++ "*/") ++ line
  else comment ("#[doc = " ++ Text.quote s ++ "]") ++ line

def docComments (docs : List String) : Document :=
  docs.flatMap docComment

inductive AttributeState where
  | word
  | punct
  | trailingComma
  deriving DecidableEq

-- The comma at the end of a list. Only the end of a list in parentheses is less indented than the list.
def lastComma (enclosed : Bool) : Document :=
  if enclosed then trailingComma 0 else breaking { before := "," }

mutual

-- The tokens of a predicate. Only names and literals need space between them.
def gateToken (enclosed : Bool) (state : AttributeState) (isLast : Bool) :
    Token → Document × AttributeState
  | .ident i _   => (gap state ++ text i.text, .word)
  | .literal t _ => (gap state ++ text t, .word)
  | .punct c _ _ =>
    if c = ',' && isLast then (lastComma enclosed, .trailingComma)
    else
      let front := if state = .word && c = '=' then text " " else []
      let behind := if c = '=' then text " " else if c = ',' then space else []
      (front ++ text c.toString ++ behind, .punct)
  | .group d ts _ _ =>
    match d with
    | .parenthesis => (gateGroup ts, .punct)
    | .invisible   => gateTokens enclosed state ts
    | _            => (text d.opening ++ (gateTokens false .punct ts).1 ++ text d.closing, .punct)
where
  gap (state : AttributeState) : Document :=
    if state = .word then space else []

def gateTokens (enclosed : Bool) (state : AttributeState) : List Token → Document × AttributeState
  | []      => ([], state)
  | t :: ts =>
    let (d, state) := gateToken enclosed state ts.isEmpty t
    let (ds, state) := gateTokens enclosed state ts
    (d ++ ds, state)

def gateGroup (ts : List Token) : Document :=
  let (d, state) := gateTokens true .punct ts
  let last := if state = .trailingComma then [] else breaking { offset := -indentation }
  text "(" ++ together indentation (zero ++ d ++ last) ++ text ")"

end

def gateCode : Option (List Token) → Document
  | none    => []
  | some ts => text "#[cfg" ++ gateGroup ts ++ text "]" ++ space

def vecOf (type : String) : Document :=
  generic "::std::vec::Vec" [text type]

def optionOf (type : Primitive) : Document :=
  generic "::std::option::Option" [text type.typeCode]

-- Items of a body, each with the end of a line behind it.
def body (ds : List Document) : Document :=
  match ds with
  | [] => text "\x7b\x7d"
  | _  => text "\x7b" ++ innerLine ++ separatedBy line ds ++ lastLine

def inBody (head : Document) (ds : List Document) : Document :=
  match ds with
  | [] => together indentation (head ++ text "\x7b" ++ innerLine) ++ text "\x7d"
  | _  => together indentation (head ++ body ds) ++ text "\x7d"

-- A function: its head up to the parameters, the parameters, the type of its result, and its statements.
def function (head : String) (parameters : List Document) (result : Document)
    (statements : List Document) : Document :=
  let parameterList := match parameters with
    | [] => []
    | _  => together 0 (zero ++ separatedBy (text "," ++ space) parameters ++ trailingComma 0)
  inBody (text (head ++ "(") ++ never ++ parameterList ++ text ")" ++
    together (-indentation) (text " -> " ++ result) ++ text " ") statements

def implementation (trait : Option String) (type : String) (members : List Document) : Document :=
  let target := match trait with
    | none   => text type
    | some t => text t ++ space ++ text ("for " ++ type)
  inBody (filled (-indentation) (together indentation (text "impl") ++ text " " ++ target) ++ text " ")
    members

def documented (docs : List String) (attributes : List String) (d : Document) : Document :=
  docComments docs ++ attributes.flatMap (fun a => text a ++ line) ++ d

def importsCode (path : List Token) (names : List String) : Document :=
  let group := match names with
    | [n] => text n
    | _   => together indentation (text "\x7b" ++ zero ++
        filled 0 (separatedBy (text "," ++ space) (names.map text)) ++ trailingComma 0 ++ text "\x7d")
  text ("use " ++ Token.denseTexts path ++ "::") ++ group ++ text ";"

def constantCode (c : KeyConstant) : Document :=
  docComment c.doc ++ together 0 (text ("pub const " ++ c.name ++ ": &str = ") ++ never ++
    text (Text.quote c.key.toList ++ ";"))

def sentinelsCode (type doc : String) (variants : List Variant) : Document :=
  documented [doc] ["#[derive(Debug, Clone, Copy, PartialEq, Eq, Hash)]",
      "#[allow(clippy::enum_variant_names)]"] <|
    inBody (text ("pub enum " ++ type ++ " ")) (variants.map fun v =>
      docComment v.doc ++ text (v.name ++ ","))

def variantArm (name value : String) : Document :=
  arm (text ("Self::" ++ name)) (text value)

def sentinelMethodsCode (type : String) (arms : SentinelArms) : Document :=
  let flag (b : Bool) := if b then "true" else "false"
  implementation none type [
    documented [" Name of the environment variable this error is about."] ["#[must_use]"] <|
      function "pub const fn var" [text "self"] (text "&'static str") [
        statement (matchOn (text "self") (arms.keys.map fun (name, key) => variantArm name key))],
    documented [" Whether the variable was not set, as opposed to malformed."] ["#[must_use]"] <|
      function "pub const fn is_missing" [text "self"] (text "bool") [
        statement (matchOn (text "self") (arms.flags.map fun (name, b) => variantArm name (flag b)))]]

def formatter : Document :=
  text "f: &mut " ++ generic "::std::fmt::Formatter" [text "'_"]

def displayCode (type : String) (statements : List Document) : Document :=
  implementation (some "::std::fmt::Display") type [
    function "fn fmt" [text "&self", formatter] (text "::std::fmt::Result") statements]

def errorCode (type : String) : Document :=
  implementation (some "::std::error::Error") type []

def loadErrorCode (t : ReportTypes) (doc : String) : Document :=
  let list (name doc : String) : Document :=
    docComment doc ++ text ("pub " ++ name ++ ": ") ++ vecOf t.sentinels ++ text ","
  documented [doc] ["#[derive(Debug, Clone, PartialEq, Eq)]"] <|
    inBody (text ("pub struct " ++ t.loadError ++ " ")) [
      list "missing" " Variables that are not set, in field order.",
      list "invalid" " Variables that are set but malformed, in field order."]

def loadErrorMethodsCode (t : ReportTypes) : Document :=
  implementation none t.loadError [
    documented [" Every reported problem, missing variables first."] [] <|
      function "pub fn errors" [text "&self"]
        (text "impl " ++ generic "::std::iter::Iterator" [text ("Item = " ++ t.sentinels)] ++
          text " + '_")
        [fixed "self.missing.iter().chain(self.invalid.iter()).copied()"],
    function "fn write_vars" [formatter, text ("errors: &[" ++ t.sentinels ++ "]")]
      (text "::std::fmt::Result") [
        braced "for (i, error) in errors.iter().enumerate()" [
          fixedBraced "if i > 0" ["f.write_str(\",\")?;"],
          fixed "f.write_str(error.var())?;"],
        fixed "Ok(())"]]

def loadErrorDisplayCode (t : ReportTypes) : Document :=
  displayCode t.loadError [
    fixedBraced "if !self.missing.is_empty()" [
      "f.write_str(\"envs \")?;",
      "Self::write_vars(f, &self.missing)?;",
      "f.write_str(\" are not set\")?;"],
    braced "if !self.invalid.is_empty()" [
      fixedBraced "if !self.missing.is_empty()" ["f.write_str(\"; \")?;"],
      fixed "f.write_str(\"envs \")?;",
      fixed "Self::write_vars(f, &self.invalid)?;",
      fixed "f.write_str(\" have an invalid value\")?;"],
    fixed "Ok(())"]

def pushCode (list type variant : String) : Document :=
  statement (chain list [method "push" [text (type ++ "::" ++ variant)]] ++ text ";")

-- What happens with the text of a variable that is set.
def presentArm (sentinels : String) (r : VariableRead) : Document :=
  let pattern := call (text "Some") [text "raw"]
  match r.interpretation with
  | none   => arm pattern (fixed "Some(raw.to_string_lossy().into_owned())")
  | some i => armBlock pattern [
      fixed "let raw = raw.to_string_lossy();",
      letStatement (text "parsed: " ++ optionOf r.type) (valueCode i.parsing),
      braced "if parsed.is_none()" [pushCode "invalid" sentinels i.invalid],
      fixed "parsed"]

def readCode (sentinels : String) (r : VariableRead) : Document :=
  letStatement (text (r.binding ++ ": ") ++ optionOf r.type) <|
    matchOn (call (text "::std::env::var_os") [text r.constant]) [
      presentArm sentinels r,
      armBlock (text "None") [pushCode "missing" sentinels r.missing, fixed "None"]]

def literalFields : Fields String → List Document
  | .nil => []
  | .leaf name binding rest => field name.text (text binding) :: literalFields rest
  | .record name type inner rest =>
    field name.text (literal type.text (literalFields inner)) :: literalFields rest

def literalCode (r : Record String) : Document :=
  literal r.type.text (literalFields r.fields)

-- The pattern that takes the values out of their options, and the options.
def presentPattern (bindings : List String) : Document :=
  tuple (bindings.map fun b => call (text "Some") [text b])

def presentOptions (bindings : List String) : Document :=
  tuple (bindings.map text)

-- The record, if all of its leaves have a value.
def successCode (l : Loader) : Document :=
  let bindings := l.reads.map (·.binding)
  let condition := filled 0 (text "let " ++ filled 0 (presentPattern bindings) ++ text " = " ++ never ++
    filled 0 (presentOptions bindings))
  statement (together indentation (text "if " ++
    together (-indentation) (together 0 (condition ++ text " ")) ++ text "\x7b" ++ line ++
    statement (text "return " ++ callBlock "Ok" (literalCode l.literal) ++ text ";") ++
    lastLine ++ text "\x7d"))

def listCode (name : String) (isMutable : Bool) (type : String) : Document :=
  letStatement (text ((if isMutable then "mut " else "") ++ name ++ ": ") ++ vecOf type)
    (text "::std::vec::Vec::new()")

def loaderStatements (t : ReportTypes) (l : Loader) : List Document :=
  match l.reads with
  | [] => [statement (callBlock "Ok" (literalCode l.literal))]
  | _  =>
    [listCode "missing" true t.sentinels, listCode "invalid" l.invalidMutable t.sentinels] ++
    l.reads.map (readCode t.sentinels) ++
    [successCode l,
      statement (callBlock "Err" (literal t.loadError [text "missing", text "invalid"]))]

def loaderCode (t : ReportTypes) (l : Loader) : Document :=
  docComments l.docs ++ function ("pub fn " ++ l.name) []
    (generic "::std::result::Result" [text l.literal.type.text, text t.loadError])
    (loaderStatements t l)

def helperCode : Helper → Document
  | .bool     => boolHelper
  | .duration => durationHelper

def itemCode (t : ReportTypes) : ModuleItem → Document
  | .imports path names     => importsCode path names
  | .constant c             => constantCode c
  | .sentinels doc variants => sentinelsCode t.sentinels doc variants
  | .sentinelMethods arms   => sentinelMethodsCode t.sentinels arms
  | .sentinelDisplay        => displayCode t.sentinels [fixed "f.write_str(self.var())"]
  | .sentinelError          => errorCode t.sentinels
  | .loadError doc          => loadErrorCode t doc
  | .loadErrorMethods       => loadErrorMethodsCode t
  | .loadErrorDisplay       => loadErrorDisplayCode t
  | .loadErrorError         => errorCode t.loadError
  | .loader l               => loaderCode t l
  | .helper h               => helperCode h

def code (m : Module) : Document :=
  together 0 (m.items.flatMap fun i => gateCode i.gate ++ itemCode m.types i.item ++ line)

end EnvConfig.Module
