import EnvConfig.Source.Place

-- Why no loader can be generated, and what a user is told about that.

namespace EnvConfig

open Source

-- Why a file cannot be read or written.
inductive FileProblem where
  | notFound
  | alreadyExists
  | isADirectory
  | notADirectory
  | invalidData
  | invalidInput
  | invalidFilename
  | permissionDenied
  deriving DecidableEq, Repr

inductive Problem where
  | parse (name : String) (span : Span) (reason : String)
  | recordNotFound (name : String) (available : List String)
  | unsupportedType (type field : String)
  | recursiveRecord (record field : String)
  | emptyPrefix
  | invalidIdentifier (name field : String)
  | duplicateKey (key first second : String)
  | duplicateIdentifier (ident first second : String)
  | invalidOption (option value reason : String)
  | render (root reason : String)
  | read (path : String) (reason : FileProblem)
  | write (path : String) (reason : FileProblem)
  deriving DecidableEq, Repr

namespace Problem

-- A text in the marks that messages put around names.
def quoted (text : String) : String :=
  "`" ++ text ++ "`"

def message : Problem → String
  | parse name _ _ => "failed to parse " ++ name
  | recordNotFound name _ => "struct " ++ quoted name ++ " not found"
  | unsupportedType type field => "unsupported type " ++ quoted type ++ " for field " ++ quoted field
  | recursiveRecord record field =>
    "struct " ++ quoted record ++ " contains itself through field " ++ quoted field
  | emptyPrefix => "project prefix must not be empty"
  | invalidIdentifier name field =>
    quoted name ++ " derived from " ++ quoted field ++ " is not a valid Rust identifier"
  | duplicateKey key first second =>
    "fields " ++ quoted first ++ " and " ++ quoted second ++ " both map to environment variable " ++ key
  | duplicateIdentifier ident first second =>
    "fields " ++ quoted first ++ " and " ++ quoted second ++ " both generate identifier " ++ quoted ident
  | invalidOption option value reason => "invalid " ++ option ++ " " ++ quoted value ++ ": " ++ reason
  | render root _ => "generated loader for " ++ quoted root ++ " is not valid Rust"
  | read path _ => "failed to read " ++ path
  | write path _ => "failed to write " ++ path

def code : Problem → String
  | parse ..               => "envgen::parse_error"
  | recordNotFound ..      => "envgen::record_not_found"
  | unsupportedType ..     => "envgen::unsupported_type"
  | recursiveRecord ..     => "envgen::recursive_record"
  | emptyPrefix            => "envgen::empty_prefix"
  | invalidIdentifier ..   => "envgen::invalid_identifier"
  | duplicateKey ..        => "envgen::duplicate_env_key"
  | duplicateIdentifier .. => "envgen::duplicate_identifier"
  | invalidOption ..       => "envgen::invalid_option"
  | render ..              => "envgen::render_error"
  | read ..                => "envgen::read_error"
  | write ..               => "envgen::write_error"

-- What a user can do about a problem.
def help? : Problem → Option String
  | parse .. => some "the input must be a Rust source file declaring the config struct"
  | recordNotFound _ [] => some "the file declares no structs with named fields"
  | recordNotFound _ available =>
    some ("structs declared in the file: " ++ ", ".intercalate available)
  | unsupportedType .. =>
    some ("supported types are String, bool, isize, i8-i64, usize, u8-u64, f32, f64, " ++
      "Duration and structs declared in the same file")
  | recursiveRecord .. => none
  | emptyPrefix => some "pass --project with at least one letter or digit"
  | invalidIdentifier .. =>
    some "environment variable names must start with a letter; check the project prefix"
  | duplicateKey .. =>
    some "variable names keep only letters and digits of each field name; rename one field"
  | duplicateIdentifier .. => some "rename one of the fields"
  | invalidOption .. =>
    some ("types paths look like `super` or `crate::config`, " ++
      "cfg predicates like `feature = \"env\"`")
  | render .. => none
  | read .. => some "check that the file exists and is readable"
  | write .. => some "check that the output directory is writable"

-- The source file cannot be parsed, as shows at a place of its text.
def atPlace (name text : String) (place : Place) (reason : String) : Problem :=
  .parse name (.ofPlace place text.toList) reason

end Problem
end EnvConfig
