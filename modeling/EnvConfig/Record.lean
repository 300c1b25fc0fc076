import EnvConfig.Source.Token

-- Values of a record's shape.

namespace EnvConfig

open Source

-- The fields of a record, in order, where each field that is no record holds an `α`. A field that is a
-- record has its own fields, and a type's name.
inductive Fields (α : Type) where
  | nil
  | leaf   (name : Ident) (content : α) (rest : Fields α)
  | record (name type : Ident) (inner rest : Fields α)
  deriving DecidableEq, Repr

-- A record with the records in it, down to the leaves.
structure Record (α : Type) where
  type   : Ident
  fields : Fields α
  deriving DecidableEq, Repr

namespace Fields

variable {α β : Type}

def map (f : α → β) : Fields α → Fields β
  | nil => nil
  | leaf name a rest => leaf name (f a) (rest.map f)
  | record name type inner rest => record name type (inner.map f) (rest.map f)

-- What the leaves hold, each record's where its field stands.
def contents : Fields α → List α
  | nil => []
  | leaf _ a rest => a :: rest.contents
  | record _ _ inner rest => inner.contents ++ rest.contents

-- The leaves by their numbers in that order, counted from `start`, and the number behind the last one.
def numbered (start : Nat) : Fields α → Fields Nat × Nat
  | nil => (nil, start)
  | leaf name _ rest =>
    let (rest, stop) := rest.numbered (start + 1)
    (leaf name start rest, stop)
  | record name type inner rest =>
    let (inner, next) := inner.numbered start
    let (rest, stop) := rest.numbered next
    (record name type inner rest, stop)

-- Replaces what every leaf holds, if that is possible for all.
def traverse? (f : α → Option β) : Fields α → Option (Fields β)
  | nil => some nil
  | leaf name a rest => do
    let b ← f a
    return leaf name b (← rest.traverse? f)
  | record name type inner rest => do
    let inner ← inner.traverse? f
    return record name type inner (← rest.traverse? f)

-- The names of the types of all records in the fields.
def typeNames : Fields α → List String
  | nil => []
  | leaf _ _ rest => rest.typeNames
  | record _ type inner rest => type.name :: inner.typeNames ++ rest.typeNames

end Fields

namespace Record

variable {α β : Type}

def map (f : α → β) (r : Record α) : Record β where
  type   := r.type
  fields := r.fields.map f

def contents (r : Record α) : List α :=
  r.fields.contents

def numbered (r : Record α) : Record Nat where
  type   := r.type
  fields := (r.fields.numbered 0).1

def traverse? (f : α → Option β) (r : Record α) : Option (Record β) := do
  return ⟨r.type, ← r.fields.traverse? f⟩

-- Puts a name in its place among names in order, unless it is there.
def insertName (name : String) : List String → List String
  | []      => [name]
  | n :: ns =>
    if name < n then name :: n :: ns
    else if n < name then n :: insertName name ns
    else n :: ns

-- The names of the record's type and of the types in it, in order and each one once.
def typeNames (r : Record α) : List String :=
  (r.type.name :: r.fields.typeNames).foldr insertName []

end Record
end EnvConfig
