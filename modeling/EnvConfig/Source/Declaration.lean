import EnvConfig.Source.Token

-- What a source file declares, as far as the records of a file need it: the types of fields, the fields
-- of a record, and that some other item stands at a place.

namespace EnvConfig.Source

-- Generic arguments are only noted, as no path that carries a list of them, even one without any, names a
-- record or a primitive.
inductive GenericArguments where
  | absent
  | empty
  | given
  deriving DecidableEq, Repr

-- One name of a path.
structure Segment where
  ident     : Ident
  arguments : GenericArguments
  deriving DecidableEq, Repr

-- Names joined by `::`, the first of them behind a further `::` if the path is a leading one.
structure Path where
  leading  : Bool
  segments : List Segment
  deriving DecidableEq, Repr

namespace Path

def hasNoArguments (p : Path) : Bool :=
  p.segments.all (·.arguments = .absent)

def text (p : Path) : String :=
  (if p.leading then "::" else "") ++ "::".intercalate (p.segments.map (·.ident.text))

end Path

-- How a type is built, down to the paths that it consists of. A path can be qualified by a type, as in
-- `<A as B>::c`. A bare bound is a path with a binder in front, or one with a question mark in parentheses.
-- All other types are alike.
inductive TypeShape where
  | path      (qualified : Bool) (path : Path)
  | paren     (inner : TypeShape)
  | invisible (inner : TypeShape)
  | bareBound
  | other
  deriving Repr

def TypeShape.isPlainPath : TypeShape → Bool
  | .path qualified _ => !qualified
  | _                 => false

-- A type and the tokens by which it is shown.
structure TypeExpr where
  shape  : TypeShape
  tokens : List Token
  deriving Repr

namespace TypeExpr

-- The type inside delimiters that nobody sees.
def enclosed (t : TypeExpr) : TypeExpr where
  shape  := .invisible t.shape
  tokens := [.group .invisible t.tokens 0 0]

-- The type as messages show it: without any space.
def display (t : TypeExpr) : String :=
  String.ofList ((Token.denseTexts t.tokens).toList.filter (· != ' '))

end TypeExpr

-- A type and the names of the fields that have it. A source file gives each field its own type, a record
-- that is put together by hand may share one.
structure FieldDecl where
  names : List Ident
  type  : TypeExpr
  deriving Repr

structure RecordDecl where
  ident  : Ident
  fields : List FieldDecl
  deriving Repr

inductive Item where
  | record (decl : RecordDecl)
  | other
  deriving Repr

end EnvConfig.Source
