import EnvConfig.FieldPath
import EnvConfig.Text.Alphanumeric
import EnvConfig.Text.Blank
import EnvConfig.Text.LetterCase
import EnvConfig.Text.SnakeCase

-- The names that a generated module derives from the project's prefix, from the path of a field and
-- from the name of the root record.

namespace EnvConfig.Naming

open Text

-- A project prefix without surrounding white space and in upper case. It needs at least one letter or
-- numeral, as nothing else of it reaches a name.
def project? (text : String) : Option String :=
  let upper := (trim text.toList).flatMap toUpper
  if upper.any isAlphanumeric then some (String.ofList upper) else none

-- What a name keeps of a character: a numeral as it is, a letter in the given case, nothing else.
def keep (letter : Char → List Char) (c : Char) : List Char :=
  if isNumeral c then [c] else if isLetter c then letter c else []

def screaming (part : String) : String :=
  String.ofList (part.toList.flatMap (keep toUpper))

def capitalized (part : String) : String :=
  match part.toList with
  | []      => ""
  | c :: cs => String.ofList (keep toUpper c ++ cs.flatMap (keep toLower))

def parts (project : String) (path : FieldPath) : List String :=
  project :: path.segments

-- The environment variable of a field, such as `APP_SERVER_PORT`.
def variableName (project : String) (path : FieldPath) : String :=
  "_".intercalate ((parts project path).map screaming)

-- The common part of the two identifiers that report a problem with a field's variable.
def sentinelBase (project : String) (path : FieldPath) : String :=
  "Err" ++ String.join ((parts project path).map capitalized)

def missingName (project : String) (path : FieldPath) : String :=
  sentinelBase project path ++ "EnvMissing"

def invalidName (project : String) (path : FieldPath) : String :=
  sentinelBase project path ++ "EnvInvalid"

-- The constant that holds the name of a variable.
def constantName (key : String) : String :=
  key ++ "_ENV"

def loaderName (root : String) : String :=
  "load_" ++ String.ofList (snakeCase root.toList)

def sentinelsName (root : String) : String :=
  root ++ "EnvError"

def loadErrorName (root : String) : String :=
  root ++ "LoadError"

end EnvConfig.Naming
