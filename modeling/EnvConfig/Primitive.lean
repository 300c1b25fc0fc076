import EnvConfig.Source.Declaration

-- The types that a field can have without being a record, and how the values of each are read.

namespace EnvConfig

open Source

inductive Primitive where
  | string
  | bool
  | isize
  | i8
  | i16
  | i32
  | i64
  | usize
  | u8
  | u16
  | u32
  | u64
  | f32
  | f64
  | duration
  deriving DecidableEq, Repr

-- What is done to the text of a variable. Numbers are read at the widest width of their kind, except for
-- those of the width of a machine word.
inductive Parse where
  | raw
  | bool
  | word
  | signed
  | unsigned
  | float
  | duration
  deriving DecidableEq, Repr

-- How the values of a primitive are read: what is done to the text, the number of bits if the primitive
-- has a fixed number of them (zero if not), and the primitive that what has been read is narrowed to.
structure Parsing where
  parse  : Parse
  bits   : Nat
  narrow : Option Primitive
  deriving DecidableEq, Repr

-- The primitive that is read, before it is narrowed.
def Parse.wide : Parse → Primitive
  | raw      => .string
  | bool     => .bool
  | word     => .isize
  | signed   => .i64
  | unsigned => .u64
  | float    => .f64
  | duration => .duration

-- Every text is a string.
def Parsing.canFail (p : Parsing) : Bool :=
  p.parse != .raw

namespace Primitive

def all : List Primitive :=
  [string, bool, isize, i8, i16, i32, i64, usize, u8, u16, u32, u64, f32, f64, duration]

def name : Primitive → String
  | string   => "String"
  | bool     => "bool"
  | isize    => "isize"
  | i8       => "i8"
  | i16      => "i16"
  | i32      => "i32"
  | i64      => "i64"
  | usize    => "usize"
  | u8       => "u8"
  | u16      => "u16"
  | u32      => "u32"
  | u64      => "u64"
  | f32      => "f32"
  | f64      => "f64"
  | duration => "Duration"

-- The type of the primitive's values, which needs no import.
def typeCode : Primitive → String
  | string   => "::std::string::String"
  | duration => "::std::time::Duration"
  | p        => p.name

-- The names by which a type can be written.
def writtenNames : Primitive → List String
  | string   => ["String", "std::string::String", "alloc::string::String"]
  | duration => ["Duration", "std::time::Duration", "core::time::Duration"]
  | p        => [p.name]

def ofName? (text : String) : Option Primitive :=
  all.find? (·.writtenNames.contains text)

def parsing : Primitive → Parsing
  | string   => ⟨.raw, 0, none⟩
  | bool     => ⟨.bool, 0, none⟩
  | isize    => ⟨.word, 0, none⟩
  | i8       => ⟨.signed, 8, some i8⟩
  | i16      => ⟨.signed, 16, some i16⟩
  | i32      => ⟨.signed, 32, some i32⟩
  | i64      => ⟨.signed, 64, none⟩
  | usize    => ⟨.unsigned, 0, some usize⟩
  | u8       => ⟨.unsigned, 8, some u8⟩
  | u16      => ⟨.unsigned, 16, some u16⟩
  | u32      => ⟨.unsigned, 32, some u32⟩
  | u64      => ⟨.unsigned, 64, none⟩
  | f32      => ⟨.float, 32, some f32⟩
  | f64      => ⟨.float, 64, none⟩
  | duration => ⟨.duration, 0, none⟩

end Primitive

namespace Source

-- The name by which a type is written, if it is written by nothing but a name. Parentheses around it make
-- no difference, and neither does a leading `::`.
def TypeShape.name? : TypeShape → Option String
  | path qualified p =>
    if qualified || !p.hasNoArguments then none
    else some ("::".intercalate (p.segments.map (·.ident.name)))
  | paren inner | invisible inner => inner.name?
  | bareBound | other => none

def TypeExpr.name? (t : TypeExpr) : Option String :=
  t.shape.name?

end Source

def Primitive.ofType? (t : TypeExpr) : Option Primitive :=
  t.name?.bind ofName?

end EnvConfig
