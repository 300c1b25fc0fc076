import EnvConfig.Layout.Code
import EnvConfig.Primitive

-- The code by which a loader makes a value of a variable's text, and the helpers that this code calls.

namespace EnvConfig

open Layout Layout.Code Layout.Document

namespace Module

-- A statement whose layout depends on no name.
def fixed (code : String) : Document :=
  text code

-- Statements in braces behind a head.
def braced (head : String) (body : List Document) : Document :=
  text (head ++ " ") ++ block body

def fixedBraced (head : String) (body : List String) : Document :=
  braced head (body.map fixed)

def readNumber (type : Primitive) : List Method :=
  [⟨text ".parse::<" ++ commaSeparated [text type.typeCode] ++ text ">", []⟩, method "ok" []]

-- A sign in front of a number that cannot be negative is no part of it.
def withoutSign : Method :=
  methodBlock "filter" (closure "_" (text "!raw.starts_with('+')"))

def narrowed (wide type : Primitive) : Method :=
  methodBlock "and_then" (closure "v" (text ("<" ++ type.typeCode ++ " as ::std::convert::TryFrom<") ++
    text (wide.typeCode ++ ">>::try_from(v).ok()")))

-- A number that is too large for a float must not pass for an infinite one.
def notOverflown : Method :=
  methodBlock "filter" (text "|v| \x7b" ++ together indentation (line ++
    text "let spelled = raw.trim_start_matches(['+', '-']);" ++ line ++
    text "!v.is_infinite() || spelled.eq_ignore_ascii_case(\"inf\")" ++
    breaking { blanks := infinite, offset := indentation } ++
    text "|| spelled.eq_ignore_ascii_case(\"infinity\")" ++ lastLine) ++ text "\x7d")

-- The value of the text `raw`, if it has one.
def valueCode (p : Parsing) : Document :=
  let wide := p.parse.wide
  let narrow := (p.narrow.map (narrowed wide)).toList
  match p.parse with
  | .raw            => text "Some(raw.into_owned())"
  | .bool           => call (text "parse_bool") [text "&raw"]
  | .duration       => call (text "parse_duration") [text "&raw"]
  | .unsigned       => chain "raw" (readNumber wide ++ withoutSign :: narrow)
  | .word | .signed => chain "raw" (readNumber wide ++ narrow)
  | .float          => chain "raw" (readNumber wide ++ (p.narrow.map cast).toList ++ [notOverflown])
where
  cast (type : Primitive) : Method :=
    methodBlock "map" (closure "v" (text ("v as " ++ type.typeCode)))

def boolHelper : Document :=
  braced "fn parse_bool(raw: &str) -> ::std::option::Option<bool>" [
    fixedBraced "match raw" [
      "\"1\" | \"t\" | \"T\" | \"TRUE\" | \"true\" | \"True\" => Some(true),",
      "\"0\" | \"f\" | \"F\" | \"FALSE\" | \"false\" | \"False\" => Some(false),",
      "_ => None,"]]

def componentNumber : List Document := [
  fixed "let (whole, tail) = rest.split_at(digits(rest));",
  fixedBraced "let (fraction, tail) = match tail.strip_prefix('.')" [
    "Some(after) => after.split_at(digits(after)),",
    "None => (\"\", tail),"] ++ text ";",
  fixedBraced "if whole.is_empty() && fraction.is_empty()" ["return None;"]]

def componentUnit : List Document := [
  fixed "let unit_len = tail",
  fixed "    .find(|c: char| c == '.' || c.is_ascii_digit())",
  fixed "    .unwrap_or(tail.len());",
  fixed "let (unit, tail) = tail.split_at(unit_len);",
  fixedBraced "let scale: u128 = match unit" [
    "\"ns\" => 1,",
    "\"us\" | \"\\u\x7bb5\x7ds\" | \"\\u\x7b3bc\x7ds\" => 1_000,",
    "\"ms\" => 1_000_000,",
    "\"s\" => 1_000_000_000,",
    "\"m\" => 60_000_000_000,",
    "\"h\" => 3_600_000_000_000,",
    "_ => return None,"] ++ text ";"]

def componentSum : List Document := [
  fixedBraced "if !whole.is_empty()" [
    "let whole: u128 = whole.parse().ok()?;",
    "total = total.checked_add(whole.checked_mul(scale)?)?;"],
  fixed "let mut numerator: u128 = 0;",
  fixed "let mut denominator: u128 = 1;",
  braced "for digit in fraction.bytes()" [
    fixedBraced "if denominator >= 1_000_000_000_000_000_000" ["break;"],
    fixed "numerator = numerator * 10 + u128::from(digit - b'0');",
    fixed "denominator *= 10;"],
  fixed "total = total.checked_add(numerator * scale / denominator)?;",
  fixed "rest = tail;"]

def durationHelper : Document :=
  braced "fn parse_duration(raw: &str) -> ::std::option::Option<::std::time::Duration>" [
    fixed "let negative = raw.starts_with('-');",
    fixed "let mut rest = raw.strip_prefix(['+', '-']).unwrap_or(raw);",
    fixedBraced "if rest == \"0\"" ["return Some(::std::time::Duration::ZERO);"],
    fixedBraced "if rest.is_empty()" ["return None;"],
    fixed "let digits = |s: &str| s.find(|c: char| !c.is_ascii_digit()).unwrap_or(s.len());",
    fixed "let mut total: u128 = 0;",
    braced "while !rest.is_empty()" (componentNumber ++ componentUnit ++ componentSum),
    fixedBraced "if negative && total != 0" ["return None;"],
    fixed "let nanos = <u64 as ::std::convert::TryFrom<u128>>::try_from(total).ok()?;",
    fixed "Some(::std::time::Duration::from_nanos(nanos))"]

end Module
end EnvConfig
