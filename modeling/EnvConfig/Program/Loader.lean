import EnvConfig.Program.Meaning

-- The loader of a module, and the helpers that it calls, as programs.

namespace EnvConfig.Program

instance : Coe String Expr where
  coe := .name

def optionText (type : Primitive) : String :=
  genericText "::std::option::Option" type.typeCode

def boolFunction : Function where
  head := "fn parse_bool(raw: &str) -> ::std::option::Option<bool>"
  body :=
    .value <| .onText "raw" <|
      .arm ["1", "t", "T", "TRUE", "true", "True"] (.unary .some (.literal (.bool true))) <|
      .arm ["0", "f", "F", "FALSE", "false", "False"] (.unary .some (.literal (.bool false))) <|
      .otherwise (.literal .none)

-- The text up to a character of a kind has as many octets, or all that the text has.
def lengthUpTo (t : CharTest) (e : Expr) : Expr :=
  .binary .unwrapOr (.unary (.find t) e) (.unary .length e)

-- The digits at the start of a text, and what stands behind them.
def cutDigits (e : Expr) : Expr :=
  .binary .splitAt e (.call "digits" e)

def cutDecimals (e : Expr) : Expr :=
  .onOption (.unary (.stripPrefix (.one '.')) e) "after" (.value (cutDigits "after"))
    (.value (.binary .pair (.literal (.string "")) e))

def numberThen (rest : Block) : Block :=
  .letIn (.pair "whole" "tail") (cutDigits "rest") <|
  .letIn (.pair "fraction" "tail") (cutDecimals "tail") <|
  .onlyIf (.both (.unary .isEmpty "whole") (.unary .isEmpty "fraction")) (.leave (.literal .none)) rest

def scaleOfUnit : Arms :=
  .arm ["ns"] (.literal (.number 1)) <|
  .arm ["us", "µs", "μs"] (.literal (.number 1_000)) <|
  .arm ["ms"] (.literal (.number 1_000_000)) <|
  .arm ["s"] (.literal (.number 1_000_000_000)) <|
  .arm ["m"] (.literal (.number 60_000_000_000)) <|
  .arm ["h"] (.literal (.number 3_600_000_000_000)) <|
  .otherwise (.leave (.literal .none))

def unitThen (rest : Block) : Block :=
  .letIn (.name false "unit_len" none) (lengthUpTo (.either (.is '.') .isDigit) "tail") <|
  .letIn (.pair "unit" "tail") (.binary .splitAt "tail" "unit_len") <|
  .letIn (.name false "scale" "u128") (.onText "unit" scaleOfUnit) rest

def addWhole : Block :=
  .letIn (.name false "whole" "u128") (.orReturn (.unary .ok (.unary .parseWord "whole"))) <|
  .assign "total"
    (.orReturn (.binary .checkedAdd "total" (.orReturn (.binary .checkedMul "whole" "scale")))) .done

-- The digits behind the eighteenth one do not count.
def isExact : Expr :=
  .binary .atLeast "denominator" (.literal (.number 1_000_000_000_000_000_000))

def addDigit : Block :=
  .onlyIf isExact .stop <|
  .assign "numerator"
    (.binary .add (.binary .mul "numerator" (.literal (.number 10)))
      (.unary .ofByte (.binary .sub "digit" (.literal (.byte '0'))))) <|
  .multiply "denominator" (.literal (.number 10)) .done

def fractionThen (rest : Block) : Block :=
  .letIn (.name true "numerator" "u128") (.literal (.number 0)) <|
  .letIn (.name true "denominator" "u128") (.literal (.number 1)) <|
  .forEach "digit" (.unary .bytes "fraction") addDigit <|
  .assign "total"
    (.orReturn (.binary .checkedAdd "total"
      (.binary .div (.binary .mul "numerator" "scale") "denominator"))) <|
  .assign "rest" "tail" rest

def sumThen (rest : Block) : Block :=
  .onlyIf (.unary .not (.unary .isEmpty "whole")) addWhole (fractionThen rest)

def isUnread : Expr :=
  .unary .not (.unary .isEmpty "rest")

-- One round: a component of the text is added to the total.
def addComponent : Block :=
  numberThen (unitThen (sumThen .done))

-- Nothing less than zero is a duration.
def durationOfTotal : Block :=
  .onlyIf (.both "negative" (.binary .differs "total" (.literal (.number 0)))) (.leave (.literal .none)) <|
  .letIn (.name false "nanos" none) (.orReturn (.unary .ok (.unary (.convert .u64 "u128") "total"))) <|
  .value (.unary .some (.unary .ofNanos "nanos"))

def durationOfRest : Block :=
  .letFunction "digits" "s" (lengthUpTo (.not .isDigit) "s") <|
  .letIn (.name true "total" "u128") (.literal (.number 0)) <|
  .whileTrue isUnread addComponent durationOfTotal

def durationFunction : Function where
  head := "fn parse_duration(raw: &str) -> ::std::option::Option<::std::time::Duration>"
  body :=
    .letIn (.name false "negative" none) (.unary (.startsWith (.one '-')) "raw") <|
    .letIn (.name true "rest" none)
      (.binary .unwrapOr (.unary (.stripPrefix (.any ['+', '-'])) "raw") "raw") <|
    .onlyIf (.binary .equals "rest" (.literal (.string "0"))) (.leave (.unary .some (.literal .zeroDuration))) <|
    .onlyIf (.unary .isEmpty "rest") (.leave (.literal .none)) durationOfRest

def helperFunction : Helper → Function
  | .bool     => boolFunction
  | .duration => durationFunction

def narrowed (wide type : Primitive) (e : Expr) : Expr :=
  .apply .andThen e "v" (.value (.unary .ok (.unary (.convert type wide.typeCode) "v")))

def withoutPlus (e : Expr) : Expr :=
  .apply .filter e "_" (.value (.unary .not (.unary (.startsWith (.one '+')) "raw")))

def isFiniteOrNamed : Expr :=
  .either (.either (.unary .not (.unary .isInfinite "v")) (.unary (.isNamed "inf") "spelled"))
    (.unary (.isNamed "infinity") "spelled")

def notOverflown (e : Expr) : Expr :=
  .apply .filter e "v" <|
    .letIn (.name false "spelled" none) (.unary (.trimStart (.any ['+', '-'])) "raw") <|
    .value isFiniteOrNamed

def cast (type : Primitive) (e : Expr) : Expr :=
  .apply .map e "v" (.value (.unary (.cast type) "v"))

def readNumber (type : Primitive) : Expr :=
  .unary .ok (.unary (.parse type) "raw")

-- The value of the text `raw`, if it has one.
def valueOf (p : Parsing) : Expr :=
  let wide := p.parse.wide
  let narrow (e : Expr) : Expr := p.narrow.elim e (narrowed wide · e)
  match p.parse with
  | .raw            => .unary .some (.unary .owned "raw")
  | .bool           => .call "parse_bool" (.unary .borrow "raw")
  | .duration       => .call "parse_duration" (.unary .borrow "raw")
  | .unsigned       => narrow (withoutPlus (readNumber wide))
  | .word | .signed => narrow (readNumber wide)
  | .float          => notOverflown (p.narrow.elim (readNumber wide) (cast · (readNumber wide)))

-- What happens with the text of a variable that is set.
def presentBlock (sentinels : String) (r : VariableRead) : Block :=
  match r.interpretation with
  | none   => .value (.unary .some (.unary .owned (.unary .lossy "raw")))
  | some i =>
    .letIn (.name false "raw" none) (.unary .lossy "raw") <|
    .letIn (.name false "parsed" (optionText r.type)) (valueOf i.parsing) <|
    .onlyIf (.unary .isNone "parsed") (.push "invalid" sentinels i.invalid .done) <|
    .value "parsed"

def absentBlock (sentinels : String) (r : VariableRead) : Block :=
  .push "missing" sentinels r.missing (.value (.literal .none))

def readThen (sentinels : String) (r : VariableRead) (rest : Block) : Block :=
  .letIn (.name false r.binding (optionText r.type))
    (.onOption (.variable r.constant) "raw" (presentBlock sentinels r) (absentBlock sentinels r))
    rest

-- The record, if all of its leaves have a value.
def successThen (l : Loader) (rest : Block) : Block :=
  .onlyIfAll (l.reads.map (·.binding)) (.leave (.success l.literal)) rest

def listThen (name : String) (isMutable : Bool) (type : String) (rest : Block) : Block :=
  .letIn (.name isMutable name (genericText "::std::vec::Vec" type)) (.literal .emptyList) rest

def loaderBody (t : ReportTypes) (l : Loader) : Block :=
  match l.reads with
  | [] => .value (.success l.literal)
  | _  =>
    listThen "missing" true t.sentinels <|
    listThen "invalid" l.invalidMutable t.sentinels <|
    l.reads.foldr (readThen t.sentinels) <|
    successThen l <|
    .value (.failure t.loadError)

def loaderFunction (t : ReportTypes) (l : Loader) : Function where
  head :=
    "pub fn " ++ l.name ++ "() -> " ++
      genericText "::std::result::Result" (l.literal.type.text ++ ", " ++ t.loadError)
  body := loaderBody t l

-- The program that an item of a module is, if the item is run.
def itemFunction? (t : ReportTypes) : ModuleItem → Option Function
  | .loader l => some (loaderFunction t l)
  | .helper k => some (helperFunction k)
  | _         => none

-- What a helper of a module is run with. Helpers call no other function.
def helperContext (m : Module) (env : Environment) (rounds : Nat) : Context where
  environment := env
  types       := m.types
  key?        := m.key?
  sentinel?   := m.sentinel?
  function?   := fun _ => none
  rounds      := rounds

def loaderContext (m : Module) (env : Environment) (rounds : Nat) : Context :=
  { helperContext m env rounds with function? := fun name => (m.helpers.find? (·.name = name)).map call }
where
  call (h : Helper) (d : Datum) : Ending Datum :=
    (helperFunction h).call (helperContext m env rounds) d

end EnvConfig.Program
