import EnvConfig.Generator
import EnvConfig.Module.Loading

-- Sample records, one loader for each kind of leaf and of nesting.

namespace EnvConfig

structure Sample where
  name      : String
  generator : Generator
  source    : String

namespace Sample

def generate (s : Sample) : Except Problem Generated :=
  s.generator.generate s.name s.source

-- A declaration of a record, with a name and a type for each of its fields.
def declaration (name : String) (fields : List (String × String)) : String :=
  let field (f : String × String) := "    pub " ++ f.1 ++ ": " ++ f.2 ++ ",\n"
  "pub struct " ++ name ++ " \x7b\n" ++ String.join (fields.map field) ++ "\x7d\n"

def ofRoot (name root project : String) (source : List String) : Sample where
  name      := name
  generator := (Generator.ofRoot root).withProject project
  source    := String.join source

def basic : Sample :=
  ofRoot "basic" "TestConfig1" "TESTCONFIG1" [
    declaration "TestConfig1" [
      ("app_name", "String"), ("debug", "bool"), ("timeout", "Duration"), ("retries", "isize")]]

def ints : Sample :=
  ofRoot "ints" "TestConfigInts" "TESTCONFIGINTS" [
    declaration "TestConfigInts" [
      ("int8_val", "i8"), ("int16_val", "i16"), ("int32_val", "i32"), ("int64_val", "i64"),
      ("word_val", "isize")]]

def uints : Sample :=
  ofRoot "uints" "TestConfigUints" "TESTCONFIGUINTS" [
    declaration "TestConfigUints" [
      ("uint8_val", "u8"), ("uint16_val", "u16"), ("uint32_val", "u32"), ("uint64_val", "u64"),
      ("word_val", "usize")]]

def floats : Sample :=
  ofRoot "floats" "TestConfigFloats" "TESTCONFIGFLOATS" [
    declaration "TestConfigFloats" [("float32_val", "f32"), ("float64_val", "f64")]]

def nested : Sample :=
  ofRoot "nested" "TestConfigNested" "TESTCONFIGNESTED" [
    declaration "Nested" [("inner_str", "String"), ("inner_bool", "bool")],
    declaration "TestConfigNested" [("app_name", "String"), ("nested", "Nested")]]

-- One record type is used twice, and a field has a reserved word for its name.
def app : Sample :=
  ofRoot "app" "AppConfig" "APP" [
    declaration "Server" [("host", "String"), ("port", "isize")],
    declaration "AppConfig" [("server", "Server"), ("admin", "Server"), ("r#type", "String")]]

def durations : Sample :=
  ofRoot "durations" "Timeouts" "TIMEOUTS" [
    declaration "Timeouts" [
      ("connect", "std::time::Duration"), ("read", "core::time::Duration")]]

-- The loader stands in the module of its record, behind a gate that always holds.
def gated : Sample :=
  let s := ofRoot "gated" "Gated" "GATED" [
    declaration "Gated" [("level", "u8"), ("name", "String")]]
  { s with generator := (s.generator.withTypesPath "self").withGate "all()" }

def all : List Sample :=
  [basic, ints, uints, floats, nested, app, durations, gated]

def ofName? (name : String) : Option Sample :=
  all.find? (·.name = name)

end Sample
end EnvConfig
