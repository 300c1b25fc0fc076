namespace EnvConfig

-- The names of the fields on the way from a root record down to one of its fields, outermost first.
-- The empty path stands for the root record itself.
structure FieldPath where
  segments : List String
  deriving DecidableEq, Repr

namespace FieldPath

def root : FieldPath where
  segments := []

def child (p : FieldPath) (name : String) : FieldPath where
  segments := p.segments ++ [name]

@[simp]
theorem segments_root : root.segments = [] :=
  rfl

@[simp]
theorem segments_child (p : FieldPath) (name : String) :
    (p.child name).segments = p.segments ++ [name] :=
  rfl

-- The path as messages show it, such as `server.port`.
def dotted (p : FieldPath) : String :=
  ".".intercalate p.segments

-- The local variable that holds the field's value in a generated loader, such as `val_server_port`.
def binding (p : FieldPath) : String :=
  "val_" ++ "_".intercalate p.segments

end FieldPath
end EnvConfig
